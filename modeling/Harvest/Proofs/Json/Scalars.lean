import Harvest.Json.Numeral
import Harvest.Json.Reader
import Harvest.Json.Writer
/-!
Strings and numerals of JSON text. What is written between quotes is read back, whatever characters
it holds. A numeral that is read from a whole text is read in front of anything that cannot continue
it. Integers of 64 bits are read back from their text; of the other numbers those are which their
text stands for.
-/

/-! Strings -/

namespace Harvest.Json.Reader

theorem hexValue?_hexDigit {n : Nat} (h : n < 16) : hexValue? (hexDigit n) = some n :=
  have all : ∀ n < 16, hexValue? (hexDigit n) = some n := by decide
  all n h

/-- The escape of a control character by its number. -/
theorem unicodeEscape?_control {c : Char} (h : c.toNat < 32) (rest : List Char) :
    unicodeEscape? ('0' :: '0' :: hexDigit (c.toNat / 16) :: hexDigit (c.toNat % 16) :: rest) =
      some (c, rest) := by
  have hhigh : hexValue? (hexDigit (c.toNat / 16)) = some (c.toNat / 16) :=
    hexValue?_hexDigit (by omega)
  have hlow : hexValue? (hexDigit (c.toNat % 16)) = some (c.toNat % 16) :=
    hexValue?_hexDigit (by omega)
  have hzero : hexValue? '0' = some 0 := rfl
  have hsum : c.toNat / 16 * 16 + c.toNat % 16 = c.toNat := by omega
  have hunit : unit? ('0' :: '0' :: hexDigit (c.toNat / 16) :: hexDigit (c.toNat % 16) :: rest) =
      some (c.toNat, rest) := by
    simp [unit?, hhigh, hlow, hzero, hsum]
  simp only [unicodeEscape?, hunit, Option.bind_eq_bind, Option.bind_some]
  rw [if_neg (by omega), if_neg (by omega), Char.ofNat_toNat]

/-- A character that is written is read in one step. -/
theorem stringRest?_escaped (fuel : Nat) (read : List Char) (c : Char) (rest : List Char) :
    stringRest? (fuel + 1) read (escaped c ++ rest) = stringRest? fuel (c :: read) rest := by
  unfold escaped
  split
  · rename_i h
    simp [h, stringRest?, escape?]
  split
  · rename_i h
    simp [h, stringRest?, escape?]
  split
  · rename_i hquote hslash hplain
    simp [stringRest?, hquote, hslash, Nat.not_lt.2 hplain]
  split
  · rename_i h
    simp [h, stringRest?, escape?]
  split
  · rename_i h
    simp [h, stringRest?, escape?]
  split
  · rename_i h
    simp [h, stringRest?, escape?]
  split
  · rename_i h
    obtain rfl : Char.ofNat 8 = c := by rw [← h, Char.ofNat_toNat]
    simp [stringRest?, escape?]
  split
  · rename_i h
    obtain rfl : Char.ofNat 12 = c := by rw [← h, Char.ofNat_toNat]
    simp [stringRest?, escape?]
  · rename_i hcontrol _ _ _ _ _
    simp [stringRest?, escape?, unicodeEscape?_control (Nat.not_le.1 hcontrol)]

theorem stringRest?_flatMap {fuel : Nat} {s : List Char} (h : s.length < fuel)
    (read rest : List Char) :
    stringRest? fuel read (s.flatMap escaped ++ '"' :: rest) =
      some (String.ofList (read.reverse ++ s), rest) := by
  induction s generalizing fuel read with
  | nil =>
    obtain ⟨fuel, rfl⟩ : ∃ k, fuel = k + 1 := ⟨fuel - 1, by simp at h; omega⟩
    simp [stringRest?]
  | cons c s ih =>
    obtain ⟨fuel, rfl⟩ : ∃ k, fuel = k + 1 := ⟨fuel - 1, by simp at h; omega⟩
    rw [List.flatMap_cons, List.append_assoc, stringRest?_escaped, ih (by simpa using h)]
    simp

theorem toList_quoted (s : String) :
    (quoted s).toList = '"' :: (s.toList.flatMap escaped ++ ['"']) := by
  simp [quoted]

theorem escaped_ne_nil (c : Char) : escaped c ≠ [] := by
  unfold escaped
  repeat' split
  all_goals simp

theorem length_le_flatMap_escaped (s : List Char) : s.length ≤ (s.flatMap escaped).length := by
  induction s with
  | nil => simp
  | cons c s ih =>
    have hpos := List.length_pos_iff.2 (escaped_ne_nil c)
    simp only [List.flatMap_cons, List.length_append, List.length_cons]
    omega

/-- A quoted string is read back, and the text behind it is left. -/
theorem string?_quoted (s : String) (rest : List Char) :
    string? ((quoted s).toList ++ rest) = some (s, rest) := by
  have hlength := length_le_flatMap_escaped s.toList
  rw [toList_quoted, List.cons_append, List.append_assoc, List.singleton_append, string?,
    stringRest?_flatMap (by rw [List.length_append]; omega)]
  simp

end Harvest.Json.Reader

/-! Numerals -/

namespace Harvest.Json

/-- Whether a text cannot continue a numeral. -/
def Stops (rest : List Char) : Prop :=
  ∀ c ∈ rest.head?, digit? c = none ∧ c ≠ '.' ∧ c ≠ 'e' ∧ c ≠ 'E'

theorem stops_nil : Stops [] := by simp [Stops]

theorem stops_cons {c : Char} {rest : List Char}
    (h : digit? c = none ∧ c ≠ '.' ∧ c ≠ 'e' ∧ c ≠ 'E') : Stops (c :: rest) := by
  simpa [Stops] using h

variable {rest : List Char} {negative : Bool} {n : Number} {left s : List Char}

theorem takeWhile_append {p : Char → Bool} (h : ∀ c ∈ rest.head?, p c = false) (s : List Char) :
    (s ++ rest).takeWhile p = s.takeWhile p ∧
      (s ++ rest).dropWhile p = s.dropWhile p ++ rest := by
  induction s with
  | nil =>
    cases rest with
    | nil => simp
    | cons c r => simp [h c (by simp)]
  | cons c s ih =>
    by_cases hc : p c
    · simp [hc, ih]
    · simp [hc]

theorem Stops.digits (h : Stops rest) :
    ∀ c ∈ rest.head?, (fun x => (digit? x).isSome) c = false := by
  intro c hc
  simp [(h c hc).1]

theorem gather_append (h : Stops rest) (significand taken : Nat) (s : List Char) :
    gather significand taken (s ++ rest) =
      ((gather significand taken s).1, (gather significand taken s).2.1,
        (gather significand taken s).2.2.1, (gather significand taken s).2.2.2 ++ rest) := by
  induction s generalizing significand taken with
  | nil =>
    cases rest with
    | nil => rfl
    | cons c r => simp [gather, (h c (by simp)).1]
  | cons c s ih =>
    rw [List.cons_append, gather, gather]
    cases digit? c with
    | none => rfl
    | some d =>
      dsimp only
      split
      · exact ih ..
      · obtain ⟨htake, hdrop⟩ := takeWhile_append h.digits (c :: s)
        rw [← List.cons_append, htake, hdrop]

/-- An exponent part behind its sign. -/
def unsignedExponent? (negative : Bool) (significand : Nat) (start : Int) (down : Bool)
    (digits : List Char) : Option (Number × List Char) :=
  let shown := digits.takeWhile (fun x => (digit? x).isSome)
  let rest := digits.dropWhile (fun x => (digit? x).isSome)
  if shown.isEmpty then none
  else
    let e := exponentDigits 0 shown
    if e ≥ Nat.pow 2 31 then
      if significand ≠ 0 ∧ !down then none
      else some (.float (.finite negative 0 (-1074)), rest)
    else
      (scale? negative significand (if down then start - e else start + e)).map (·, rest)

theorem exponentPart?_plus (significand : Nat) (start : Int) (r : List Char) :
    exponentPart? negative significand start ('+' :: r) =
      unsignedExponent? negative significand start false r :=
  rfl

theorem exponentPart?_minus (significand : Nat) (start : Int) (r : List Char) :
    exponentPart? negative significand start ('-' :: r) =
      unsignedExponent? negative significand start true r :=
  rfl

theorem exponentPart?_cons (significand : Nat) (start : Int) {c : Char} (hplus : c ≠ '+')
    (hminus : c ≠ '-') (r : List Char) :
    exponentPart? negative significand start (c :: r) =
      unsignedExponent? negative significand start false (c :: r) := by
  unfold exponentPart?
  split
  rename_i h
  split at h
  · rename_i heq
    exact absurd (List.cons.inj heq).1 hplus
  · rename_i heq
    exact absurd (List.cons.inj heq).1 hminus
  · cases h
    rfl

theorem map_append {x : Option Number} (hs : x.map (·, s) = some (n, left)) :
    x.map (·, s ++ rest) = some (n, left ++ rest) := by
  obtain ⟨y, rfl, heq⟩ := Option.map_eq_some_iff.1 hs
  cases heq
  rfl

theorem unsignedExponent?_append (h : Stops rest) {significand : Nat} {start : Int} {down : Bool}
    (hs : unsignedExponent? negative significand start down s = some (n, left)) :
    unsignedExponent? negative significand start down (s ++ rest) = some (n, left ++ rest) := by
  obtain ⟨htake, hdrop⟩ := takeWhile_append h.digits s
  unfold unsignedExponent? at hs ⊢
  rw [htake, hdrop]
  dsimp only at hs ⊢
  split at hs
  · cases hs
  · rename_i hshown
    rw [if_neg hshown]
    split at hs
    · rename_i hlarge
      rw [if_pos hlarge]
      split at hs
      · cases hs
      · rename_i hfits
        cases hs
        rw [if_neg hfits]
    · rename_i hsmall
      rw [if_neg hsmall]
      exact map_append hs

theorem exponentPart?_append (h : Stops rest) {significand : Nat} {start : Int}
    (hs : exponentPart? negative significand start s = some (n, left)) :
    exponentPart? negative significand start (s ++ rest) = some (n, left ++ rest) := by
  cases s with
  | nil => cases hs
  | cons c r =>
    by_cases hplus : c = '+'
    · subst hplus
      exact unsignedExponent?_append h hs
    · by_cases hminus : c = '-'
      · subst hminus
        exact unsignedExponent?_append h hs
      · rw [exponentPart?_cons _ _ hplus hminus] at hs
        rw [List.cons_append, exponentPart?_cons _ _ hplus hminus, ← List.cons_append]
        exact unsignedExponent?_append h hs

theorem fractionPart?_append (h : Stops rest) {significand : Nat} {start : Int}
    (hs : fractionPart? negative significand start s = some (n, left)) :
    fractionPart? negative significand start (s ++ rest) = some (n, left ++ rest) := by
  unfold fractionPart? at hs ⊢
  rw [gather_append h]
  generalize gather significand 0 s = gathered at hs ⊢
  obtain ⟨digits, taken, dropped, behind⟩ := gathered
  dsimp only at hs ⊢
  split at hs
  · cases hs
  · rename_i hdigits
    rw [if_neg hdigits]
    cases behind with
    | nil =>
      cases rest with
      | nil => simpa using hs
      | cons c r =>
        obtain ⟨-, -, he, hE⟩ := h c (by simp)
        rw [List.nil_append]
        dsimp only
        rw [if_neg (by simp [he, hE])]
        exact map_append hs
    | cons c r =>
      rw [List.cons_append]
      dsimp only at hs ⊢
      split at hs
      · rename_i hmark
        rw [if_pos hmark]
        exact exponentPart?_append h hs
      · rename_i hmark
        rw [if_neg hmark]
        exact map_append hs

/-- Whether a text starts with a zero and another digit. -/
def isPadded (s : List Char) : Bool :=
  match s with
  | '0' :: c :: _ => (digit? c).isSome
  | _ => false

theorem isPadded_of_ne {c : Char} (h : c ≠ '0') (r : List Char) : isPadded (c :: r) = false := by
  unfold isPadded
  split
  · rename_i heq
    exact absurd (List.cons.inj heq).1 h
  · rfl

theorem isPadded_append (h : Stops rest) (c : Char) (r : List Char) :
    isPadded (c :: (r ++ rest)) = isPadded (c :: r) := by
  by_cases hc : c = '0'
  · subst hc
    cases r with
    | cons c' r' => rfl
    | nil =>
      cases rest with
      | nil => rfl
      | cons c' r' => simp [isPadded, (h c' (by simp)).1]
  · rw [isPadded_of_ne hc, isPadded_of_ne hc]

/-- Digits that no point and no exponent follows. -/
def wholeNumber? (negative : Bool) (significand dropped : Nat) (behind : List Char) :
    Option (Number × List Char) :=
  if dropped = 0 then some (integer negative significand, behind)
  else (scale? negative significand dropped).map (·, behind)

/-- Digits and what follows them. -/
def numberWith? (negative : Bool) (significand dropped : Nat) (behind : List Char) :
    Option (Number × List Char) :=
  match behind with
  | '.' :: r => fractionPart? negative significand dropped r
  | c :: r =>
    if c = 'e' ∨ c = 'E' then exponentPart? negative significand dropped r
    else wholeNumber? negative significand dropped behind
  | [] => wholeNumber? negative significand dropped behind

theorem unsigned?_eq (s : List Char) : unsigned? negative s =
    if (gather 0 0 s).2.1 = 0 ∨ isPadded s then none
    else numberWith? negative (gather 0 0 s).1 (gather 0 0 s).2.2.1 (gather 0 0 s).2.2.2 :=
  rfl

section

variable {significand dropped : Nat}

theorem wholeNumber?_append (hs : wholeNumber? negative significand dropped s = some (n, left)) :
    wholeNumber? negative significand dropped (s ++ rest) = some (n, left ++ rest) := by
  unfold wholeNumber? at hs ⊢
  split at hs
  · rename_i h
    cases hs
    rw [if_pos h]
  · rename_i h
    rw [if_neg h]
    exact map_append hs

theorem numberWith?_cons {c : Char} (hpoint : c ≠ '.') (hmark : ¬(c = 'e' ∨ c = 'E'))
    (r : List Char) : numberWith? negative significand dropped (c :: r) =
      wholeNumber? negative significand dropped (c :: r) := by
  unfold numberWith?
  split
  · rename_i heq
    exact absurd (List.cons.inj heq).1 hpoint
  · rename_i heq
    cases heq
    exact if_neg hmark
  · rfl

theorem numberWith?_exponent {c : Char} (hmark : c = 'e' ∨ c = 'E') (r : List Char) :
    numberWith? negative significand dropped (c :: r) =
      exponentPart? negative significand dropped r := by
  rcases hmark with rfl | rfl <;> rfl

theorem numberWith?_append (h : Stops rest)
    (hs : numberWith? negative significand dropped s = some (n, left)) :
    numberWith? negative significand dropped (s ++ rest) = some (n, left ++ rest) := by
  cases s with
  | nil =>
    have hwhole : wholeNumber? negative significand dropped rest = some (n, left ++ rest) :=
      wholeNumber?_append hs
    cases rest with
    | nil => exact hwhole
    | cons c r =>
      obtain ⟨-, hpoint, he, hE⟩ := h c (by simp)
      rw [List.nil_append, numberWith?_cons hpoint (by simp [he, hE])]
      exact hwhole
  | cons c r =>
    rw [List.cons_append]
    by_cases hpoint : c = '.'
    · subst hpoint
      exact fractionPart?_append h hs
    · by_cases hmark : c = 'e' ∨ c = 'E'
      · rw [numberWith?_exponent hmark] at hs
        rw [numberWith?_exponent hmark]
        exact exponentPart?_append h hs
      · rw [numberWith?_cons hpoint hmark] at hs
        rw [numberWith?_cons hpoint hmark, ← List.cons_append]
        exact wholeNumber?_append hs

end

theorem unsigned?_append (h : Stops rest) (hs : unsigned? negative s = some (n, left)) :
    unsigned? negative (s ++ rest) = some (n, left ++ rest) := by
  cases s with
  | nil => cases hs
  | cons c r =>
    rw [unsigned?_eq] at hs
    rw [unsigned?_eq, gather_append h, List.cons_append, isPadded_append h]
    dsimp only
    split at hs
    · cases hs
    · rename_i hdigits
      rw [if_neg hdigits]
      exact numberWith?_append h hs

theorem numeral?_cons {c : Char} (h : c ≠ '-') (r : List Char) :
    numeral? (c :: r) = unsigned? false (c :: r) := by
  unfold numeral?
  split
  · rename_i heq
    exact absurd (List.cons.inj heq).1 h
  · rfl

/-- A numeral is read in front of what cannot continue it as it is read alone. -/
theorem numeral?_append (h : Stops rest) (hs : numeral? s = some (n, left)) :
    numeral? (s ++ rest) = some (n, left ++ rest) := by
  cases s with
  | nil => cases hs
  | cons c r =>
    by_cases hminus : c = '-'
    · subst hminus
      exact unsigned?_append h hs
    · rw [numeral?_cons hminus] at hs
      rw [List.cons_append, numeral?_cons hminus, ← List.cons_append]
      exact unsigned?_append h hs

/-- A numeral starts with a digit or a sign. -/
theorem numeral?_head {c : Char} {r : List Char} (hs : numeral? (c :: r) = some (n, left)) :
    c = '-' ∨ (digit? c).isSome := by
  by_cases hminus : c = '-'
  · exact .inl hminus
  · rw [numeral?_cons hminus, unsigned?_eq] at hs
    cases hdigit : digit? c with
    | some d => exact .inr rfl
    | none => simp [gather, hdigit] at hs

/-! Numbers that are read back -/

/-- Whether the text of a number stands for that number. -/
def Number.ReadsBack (n : Number) : Prop := numeral? n.text.toList = some (n, [])

theorem digit?_of_isDigit {c : Char} (h : c.isDigit) : digit? c = some (c.toNat - '0'.toNat) := by
  obtain ⟨hlow, hhigh⟩ := Char.isDigit_iff_toNat.1 h
  exact if_pos ⟨hlow, hhigh⟩

theorem le_ofDigitChars (l : List Char) (start : Nat) : start ≤ Nat.ofDigitChars 10 l start := by
  rw [Nat.ofDigitChars_eq_ofDigitChars_zero]
  have hpow : start ≤ 10 ^ l.length * start :=
    Nat.le_mul_of_pos_left _ (Nat.pow_pos (by decide))
  omega

theorem gather_digits {l : List Char} (hdigits : ∀ c ∈ l, c.isDigit) {significand : Nat}
    (h : Nat.ofDigitChars 10 l significand ≤ maxSignificand) (taken : Nat) :
    gather significand taken l = (Nat.ofDigitChars 10 l significand, taken + l.length, 0, []) := by
  induction l generalizing significand taken with
  | nil => simp [gather]
  | cons c r ih =>
    rw [Nat.ofDigitChars_cons, Nat.mul_comm] at h ⊢
    have hle := le_ofDigitChars r (significand * 10 + (c.toNat - '0'.toNat))
    rw [gather, digit?_of_isDigit (hdigits c (by simp))]
    dsimp only
    rw [if_pos (by omega), ih (fun c hc => hdigits c (by simp [hc])) h]
    simp [Nat.add_assoc, Nat.add_comm 1]

/-- The digits of a positive number do not start with a zero. -/
theorem head?_toDigits {n : Nat} (h : 0 < n) : (Nat.toDigits 10 n).head? ≠ some '0' := by
  induction n using Nat.base_induction 10 (by decide) with
  | single m hm =>
    rw [Nat.toDigits_of_lt_base hm]
    simp
    omega
  | digit m k hk hm ih =>
    rw [← Nat.toDigits_append_toDigits (by decide) hm hk]
    cases hdigits : Nat.toDigits 10 m with
    | nil => exact absurd hdigits Nat.toDigits_ne_nil
    | cons c r => simpa [hdigits] using ih hm

theorem isPadded_toDigits (n : Nat) : isPadded (Nat.toDigits 10 n) = false := by
  rcases Nat.eq_zero_or_pos n with rfl | hpos
  · rfl
  · have hhead := head?_toDigits hpos
    cases hdigits : Nat.toDigits 10 n with
    | nil => rfl
    | cons c r =>
      rw [hdigits] at hhead
      exact isPadded_of_ne (fun h => hhead (congrArg some h)) r

theorem unsigned?_toDigits {m : Nat} (h : m ≤ maxSignificand) :
    unsigned? negative (Nat.toDigits 10 m) = some (integer negative m, []) := by
  have hgather : gather 0 0 (Nat.toDigits 10 m) = (m, 0 + (Nat.toDigits 10 m).length, 0, []) := by
    have hvalue : Nat.ofDigitChars 10 (Nat.toDigits 10 m) 0 = m := Nat.ofDigitChars_ten_toDigits
    rw [gather_digits (fun c => Nat.isDigit_of_mem_toDigits (by decide) (by decide))
      (by rw [hvalue]; exact h), hvalue]
  rw [unsigned?_eq, hgather, isPadded_toDigits]
  dsimp only
  rw [if_neg (by simp)]
  rfl

theorem le_maxSignificand {m : Nat} (h : m < Nat.pow 2 64) : m ≤ maxSignificand :=
  Nat.le_sub_one_of_lt h

theorem readsBack_nat {m : Nat} (h : m < Nat.pow 2 64) : (Number.int m).ReadsBack := by
  have htext : (Number.int m).text.toList = Nat.toDigits 10 m := by
    rw [Number.text, Int.toString_eq_repr, Int.repr_eq_if, if_pos (Int.natCast_nonneg m)]
    simp
  unfold Number.ReadsBack
  rw [htext]
  cases hdigits : Nat.toDigits 10 m with
  | nil => exact absurd hdigits Nat.toDigits_ne_nil
  | cons c r =>
    have hc : c.isDigit :=
      Nat.isDigit_of_mem_toDigits (b := 10) (n := m) (by decide) (by decide) (by simp [hdigits])
    have hminus : c ≠ '-' := by
      rintro rfl
      cases hc
    rw [numeral?_cons hminus, ← hdigits, unsigned?_toDigits (le_maxSignificand h)]
    rfl

theorem readsBack_negSucc {m : Nat} (h : m < Nat.pow 2 63) :
    (Number.int (.negSucc m)).ReadsBack := by
  have htext : (Number.int (.negSucc m)).text.toList = '-' :: Nat.toDigits 10 (m + 1) := by
    rw [Number.text, Int.toString_eq_repr, Int.repr_eq_if,
      if_neg (Int.not_le.2 (Int.negSucc_lt_zero m))]
    simp
  have hfits : ¬(m + 1 = 0 ∨ Nat.pow 2 63 < m + 1) := by omega
  have hpow : Nat.pow 2 63 < Nat.pow 2 64 := by decide
  unfold Number.ReadsBack
  rw [htext, numeral?, unsigned?_toDigits (le_maxSignificand (Nat.lt_of_le_of_lt h hpow)), integer,
    if_pos rfl, if_neg hfits]
  rfl

/-- Integers of 64 bits are read back. -/
theorem readsBack_int {n : Int} (hlow : -(Nat.pow 2 63 : Int) ≤ n) (hhigh : n < Nat.pow 2 64) :
    (Number.int n).ReadsBack := by
  cases n with
  | ofNat m => exact readsBack_nat (Int.ofNat_lt.1 hhigh)
  | negSucc m => exact readsBack_negSucc (by omega)

end Harvest.Json
