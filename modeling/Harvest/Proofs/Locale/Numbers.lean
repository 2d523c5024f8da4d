import Harvest.Locale
import Harvest.Proofs.Number.Rounding
import Harvest.Proofs.Text.Trimming
/-!
Which texts are numbers in a language. Without blanks and grouping, and with a point for the
fraction, a number is an optional sign and digits with one point among them at most; it is rounded
once. A point that a language neither divides nor groups by makes a text none. Nothing else depends
on the language: exchanging the separators carries a number over from one language to another.
-/

namespace Harvest.Locale

/-! Decimal texts -/

/-- A point with the digits behind it, or nothing if there are none. -/
inductive IsFraction (digits : List Char) : List Char → Prop
  | point : IsFraction digits ('.' :: digits)
  | none : digits = [] → IsFraction digits []

/-- Whether a text is digits with one point among them at most. -/
structure IsUnsigned (whole fraction s : List Char) : Prop where
  digits : ∀ c ∈ whole ++ fraction, c.isDigit
  nonempty : whole ++ fraction ≠ []
  shape : ∃ tail, IsFraction fraction tail ∧ s = whole ++ tail

/-- Whether a text is a number with these digits before and behind its point. -/
inductive Spells (whole fraction : List Char) : Bool → List Char → Prop
  | plain {s : List Char} : IsUnsigned whole fraction s → Spells whole fraction false s
  | plus {s : List Char} : IsUnsigned whole fraction s → Spells whole fraction false ('+' :: s)
  | minus {s : List Char} : IsUnsigned whole fraction s → Spells whole fraction true ('-' :: s)

/-- The number that digits stand for before and behind a point. -/
def quantity (whole fraction : List Char) : ℚ :=
  Nat.ofDigitChars 10 whole 0 + Nat.ofDigitChars 10 fraction 0 / 10 ^ fraction.length

/-- The value nearest to a number of some digits. -/
def nearest (negative : Bool) (whole fraction : List Char) : Binary64 :=
  Binary64.ofDecimal negative (natOf (whole ++ fraction)) (-(fraction.length : Int))

section

variable {negative : Bool} {whole fraction tail s t r : List Char} {x : Binary64} {c : Char}

theorem natOf_eq (digits : List Char) : natOf digits = Nat.ofDigitChars 10 digits 0 := by
  simp only [natOf, Nat.ofDigitChars_eq_foldl, Nat.mul_comm 10]
  rfl

theorem quantity_eq (whole fraction : List Char) : quantity whole fraction =
    natOf (whole ++ fraction) * 10 ^ (-(fraction.length : ℤ)) := by
  have hpow : (10 : ℚ) ^ fraction.length ≠ 0 := by positivity
  rw [natOf_eq, Nat.ofDigitChars_append, Nat.ofDigitChars_eq_ofDigitChars_zero, quantity,
    zpow_neg, zpow_natCast]
  push_cast
  field_simp

theorem isRounded_nearest (negative : Bool) (whole fraction : List Char) :
    Binary64.IsRounded negative (quantity whole fraction) (nearest negative whole fraction) := by
  rw [quantity_eq]
  exact Binary64.isRounded_ofDecimal ..

theorem splitFirst_of_notMem (h : c ∉ s) : Text.splitFirst c s = (s, none) := by
  induction s with
  | nil => rfl
  | cons d r ih =>
    rw [Text.splitFirst, if_neg (by rintro rfl; simp at h), ih (by simp_all)]

theorem splitFirst_append (h : c ∉ s) (r : List Char) :
    Text.splitFirst c (s ++ c :: r) = (s, some r) := by
  induction s with
  | nil => simp [Text.splitFirst]
  | cons d s ih =>
    rw [List.cons_append, Text.splitFirst, if_neg (by rintro rfl; simp at h), ih (by simp_all)]

/-- A text is read up to its first point and behind it. -/
theorem unsigned?_append (hwhole : '.' ∉ whole) (htail : IsFraction fraction tail) :
    unsigned? negative (whole ++ tail) =
      if (whole ++ fraction).isEmpty || !(whole ++ fraction).all Char.isDigit then none
      else some (nearest negative whole fraction) := by
  cases htail with
  | point =>
    simp only [unsigned?, splitFirst_append hwhole, Option.getD_some]
    rfl
  | none h =>
    subst h
    simp only [unsigned?, List.append_nil, splitFirst_of_notMem hwhole, Option.getD_none, nearest]

theorem exists_fraction (s : List Char) :
    ∃ whole fraction tail, '.' ∉ whole ∧ IsFraction fraction tail ∧ s = whole ++ tail := by
  by_cases hpoint : '.' ∈ s
  · obtain ⟨whole, fraction, rfl, hwhole⟩ := List.eq_append_cons_of_mem hpoint
    exact ⟨whole, fraction, _, hwhole, .point, rfl⟩
  · exact ⟨s, [], [], hpoint, .none rfl, (List.append_nil s).symm⟩

theorem unsigned?_eq_some_iff : unsigned? negative s = some x ↔
    ∃ whole fraction, IsUnsigned whole fraction s ∧ x = nearest negative whole fraction := by
  constructor
  · intro h
    obtain ⟨whole, fraction, tail, hwhole, htail, rfl⟩ := exists_fraction s
    rw [unsigned?_append hwhole htail] at h
    split at h
    · cases h
    · rename_i hdigits
      simp only [Bool.or_eq_true, List.isEmpty_iff, Bool.not_eq_true', not_or, Bool.not_eq_false,
        List.all_eq_true] at hdigits
      exact ⟨whole, fraction, ⟨hdigits.2, hdigits.1, tail, htail, rfl⟩, (Option.some_inj.1 h).symm⟩
  · rintro ⟨whole, fraction, ⟨hdigits, hne, tail, htail, rfl⟩, rfl⟩
    have hwhole : '.' ∉ whole := fun hmem => by
      simpa using hdigits '.' (List.mem_append_left _ hmem)
    rw [unsigned?_append hwhole htail, if_neg]
    simpa [hne, or_imp, forall_and] using hdigits

theorem IsUnsigned.mem (h : IsUnsigned whole fraction s) (hc : c ∈ s) : c = '.' ∨ c.isDigit := by
  obtain ⟨hdigits, -, tail, htail, rfl⟩ := h
  cases htail with
  | point =>
    rcases List.mem_append.1 hc with hc | hc
    · exact .inr (hdigits c (List.mem_append_left _ hc))
    · rcases List.mem_cons.1 hc with rfl | hc
      · exact .inl rfl
      · exact .inr (hdigits c (List.mem_append_right _ hc))
  | none h => exact .inr (hdigits c (by simpa [h] using hc))

theorem IsUnsigned.decimal?_eq (h : IsUnsigned whole fraction s) :
    decimal? s = unsigned? false s := by
  unfold decimal?
  split
  · rcases h.mem List.mem_cons_self with h | h <;> cases h
  · rcases h.mem List.mem_cons_self with h | h <;> cases h
  · rfl

theorem decimal?_eq_some_iff : decimal? t = some x ↔
    ∃ negative whole fraction, Spells whole fraction negative t ∧
      x = nearest negative whole fraction := by
  constructor
  · intro h
    unfold decimal? at h
    split at h <;> obtain ⟨whole, fraction, hs, rfl⟩ := unsigned?_eq_some_iff.1 h
    · exact ⟨true, whole, fraction, .minus hs, rfl⟩
    · exact ⟨false, whole, fraction, .plus hs, rfl⟩
    · exact ⟨false, whole, fraction, .plain hs, rfl⟩
  · rintro ⟨negative, whole, fraction, hs, rfl⟩
    cases hs with
    | plain hs => exact hs.decimal?_eq.trans (unsigned?_eq_some_iff.2 ⟨_, _, hs, rfl⟩)
    | plus hs | minus hs => exact unsigned?_eq_some_iff.2 ⟨_, _, hs, rfl⟩

theorem Spells.mem (h : Spells whole fraction negative t) (hc : c ∈ t) :
    c = '.' ∨ isPlain c := by
  have hdigits {s : List Char} (hs : IsUnsigned whole fraction s) (hc : c ∈ s) :
      c = '.' ∨ isPlain c := (hs.mem hc).imp_right fun h => by simp [isPlain, h]
  cases h with
  | plain hs => exact hdigits hs hc
  | plus hs | minus hs =>
    rcases List.mem_cons.1 hc with rfl | hc
    · exact .inr rfl
    · exact hdigits hs hc

end

/-! Separators -/

/-- Whether a character of a number is passed over. -/
def isSpacing (l : Locale) (c : Char) : Bool := c = l.group || Text.isBlank c

/-- A character of a number as it is in all languages. -/
def plainChar (l : Locale) (c : Char) : Char :=
  if c = l.decimal then '.' else if c = '\u2212' then '-' else c

/-- A text without blanks and grouping, with a point for the fraction and the usual sign. -/
def plainText (l : Locale) (s : List Char) : List Char :=
  (s.filter fun c => !l.isSpacing c).map l.plainChar

/-- Whether a text has no point that the language neither divides nor groups by. -/
def SparesPoint (l : Locale) (s : List Char) : Prop :=
  '.' ∈ s → l.decimal = '.' ∨ l.group = '.'

/-- Whether the character that divides the fraction is not passed over. -/
def IsProper (l : Locale) : Prop := l.isSpacing l.decimal = false

/-- There are three ways to write numbers. -/
theorem separators_ofTag (tag : String) :
    (ofTag tag).decimal = '.' ∧ (ofTag tag).group = ',' ∨
    (ofTag tag).decimal = ',' ∧ (ofTag tag).group = '.' ∨
    (ofTag tag).decimal = ',' ∧ (ofTag tag).group = '\u00A0' := by
  unfold ofTag
  dsimp only
  split
  · exact .inr (.inl ⟨rfl, rfl⟩)
  · split
    · exact .inr (.inr ⟨rfl, rfl⟩)
    · exact .inl ⟨rfl, rfl⟩

theorem isProper_ofTag (tag : String) : (ofTag tag).IsProper := by
  unfold IsProper isSpacing
  rcases separators_ofTag tag with ⟨hdecimal, hgroup⟩ | ⟨hdecimal, hgroup⟩ | ⟨hdecimal, hgroup⟩ <;>
    rw [hdecimal, hgroup] <;> decide

theorem separators_english : english.decimal = '.' ∧ english.group = ',' := by
  decide +kernel

/-- What a character of a number comes to. -/
def reading (l : Locale) (c : Char) : Option (List Char) :=
  if c = l.decimal then some ['.']
  else if l.isSpacing c then some []
  else if isPlain c then some [c]
  else if c = '\u2212' then some ['-']
  else none

section

variable {l k : Locale} {s t : List Char} {c : Char}

theorem canonical?_cons (l : Locale) (c : Char) (r : List Char) :
    l.canonical? (c :: r) = (l.reading c).bind fun t => (l.canonical? r).map (t ++ ·) := by
  rw [canonical?, reading, isSpacing]
  split_ifs <;> simp

theorem plainText_cons (l : Locale) (c : Char) (r : List Char) :
    l.plainText (c :: r) = l.plainText [c] ++ l.plainText r := by
  rw [plainText, ← List.singleton_append, List.filter_append, List.map_append]
  rfl

theorem plainText_singleton (l : Locale) (c : Char) :
    l.plainText [c] = if l.isSpacing c then [] else [l.plainChar c] := by
  cases h : l.isSpacing c <;> simp [plainText, h]

/-- A character counts if it is one of a plain number when it is written so, unless it is a point
    that the language has no use for. -/
theorem reading_eq_some_iff (proper : l.IsProper) : l.reading c = some t ↔
    l.SparesPoint [c] ∧ (∀ d ∈ l.plainText [c], d = '.' ∨ isPlain d) ∧ t = l.plainText [c] := by
  have hspares : l.SparesPoint [c] ↔ (c = '.' → l.decimal = '.' ∨ l.group = '.') := by
    rw [SparesPoint, List.mem_singleton, eq_comm]
  have hread {u : List Char} (hpoint : l.SparesPoint [c]) (hplain : ∀ d ∈ u, d = '.' ∨ isPlain d) :
      some u = some t ↔ l.SparesPoint [c] ∧ (∀ d ∈ u, d = '.' ∨ isPlain d) ∧ t = u := by
    rw [Option.some_inj, eq_comm]
    exact ⟨fun ht => ⟨hpoint, hplain, ht⟩, fun h => h.2.2⟩
  rw [plainText_singleton, reading]
  by_cases hdecimal : c = l.decimal
  · have hkept : l.isSpacing c = false := hdecimal ▸ proper
    have hchar : l.plainChar c = '.' := if_pos hdecimal
    rw [if_pos hdecimal, hkept, if_neg (by simp), hchar]
    exact hread (hspares.2 fun hc => .inl (hdecimal ▸ hc)) (by simp)
  rw [if_neg hdecimal]
  by_cases hspacing : l.isSpacing c
  · rw [if_pos hspacing, if_pos hspacing]
    refine hread (hspares.2 ?_) nofun
    rintro rfl
    have hgroup : '.' = l.group := by
      simpa [isSpacing, show Text.isBlank '.' = false by decide] using hspacing
    exact .inr hgroup.symm
  rw [if_neg hspacing, if_neg hspacing]
  by_cases hminus : c = '\u2212'
  · have hchar : l.plainChar c = '-' := by rw [plainChar, if_neg hdecimal, if_pos hminus]
    have hplain : isPlain c = false := by rw [hminus]; decide
    have hne : c ≠ '.' := by rw [hminus]; decide
    rw [hplain, if_neg (by simp), if_pos hminus, hchar]
    exact hread (hspares.2 fun hc => absurd hc hne) (by simp [isPlain])
  · have hchar : l.plainChar c = c := by rw [plainChar, if_neg hdecimal, if_neg hminus]
    rw [if_neg hminus, hchar]
    by_cases hplain : isPlain c
    · have hne : c ≠ '.' := by
        rintro rfl
        revert hplain
        decide
      rw [if_pos hplain]
      exact hread (hspares.2 fun hc => absurd hc hne) (by simp [hplain])
    · rw [if_neg hplain]
      refine iff_of_false nofun fun ⟨hpoint, hchars, _⟩ => ?_
      have hc : c = '.' := (hchars c List.mem_cons_self).resolve_right hplain
      rcases hspares.1 hpoint hc with h | h
      · exact hdecimal (hc.trans h.symm)
      · exact hspacing (by simp [isSpacing, hc, h])

theorem canonical?_eq_some_iff (proper : l.IsProper) : l.canonical? s = some t ↔
    l.SparesPoint s ∧ (∀ c ∈ l.plainText s, c = '.' ∨ isPlain c) ∧ t = l.plainText s := by
  induction s generalizing t with
  | nil =>
    constructor
    · rintro ⟨⟩
      exact ⟨nofun, nofun, rfl⟩
    · rintro ⟨-, -, rfl⟩
      rfl
  | cons c r ih =>
    have hspares : l.SparesPoint (c :: r) ↔ l.SparesPoint [c] ∧ l.SparesPoint r := by
      simp [SparesPoint, or_imp]
    rw [canonical?_cons, Option.bind_eq_some_iff, plainText_cons, hspares]
    constructor
    · rintro ⟨first, hfirst, hmap⟩
      obtain ⟨rest, hrest, rfl⟩ := Option.map_eq_some_iff.1 hmap
      obtain ⟨hpoint, hplain, rfl⟩ := (reading_eq_some_iff proper).1 hfirst
      obtain ⟨hpoints, hplains, rfl⟩ := ih.1 hrest
      exact ⟨⟨hpoint, hpoints⟩, fun d hd => (List.mem_append.1 hd).elim (hplain d) (hplains d), rfl⟩
    · rintro ⟨⟨hpoint, hpoints⟩, hplain, rfl⟩
      refine ⟨_, (reading_eq_some_iff proper).2
        ⟨hpoint, fun d hd => hplain d (List.mem_append_left _ hd), rfl⟩, ?_⟩
      rw [ih.2 ⟨hpoints, fun d hd => hplain d (List.mem_append_right _ hd), rfl⟩]
      rfl

/-- Two languages read alike what they read alike character by character. -/
theorem canonical?_map (f : Char → Char) (h : ∀ c, l.reading (f c) = k.reading c) (s : List Char) :
    l.canonical? (s.map f) = k.canonical? s := by
  induction s with
  | nil => rfl
  | cons c r ih => rw [List.map_cons, canonical?_cons, canonical?_cons, h, ih]

theorem canonical?_solid (proper : l.IsProper) (s : List Char) :
    l.canonical? (Text.solid s) = l.canonical? s := by
  induction s with
  | nil => rfl
  | cons c r ih =>
    rw [canonical?_cons, ← ih]
    cases hblank : Text.isBlank c with
    | true =>
      have hspacing : l.isSpacing c = true := by simp [isSpacing, hblank]
      have hreading : l.reading c = some [] := by
        have hc : c ≠ l.decimal := by
          rintro rfl
          exact Bool.false_ne_true (proper.symm.trans hspacing)
        rw [reading, if_neg hc, if_pos hspacing]
      rw [hreading, Text.solid, List.filter_cons_of_neg (by simp [hblank])]
      simp [Text.solid]
    | false =>
      rw [Text.solid, List.filter_cons_of_pos (by simp [hblank]), canonical?_cons]
      rfl

/-- Blanks at the ends make no difference. -/
theorem canonical?_trim (proper : l.IsProper) (s : List Char) :
    l.canonical? (Text.trim s) = l.canonical? s := by
  rw [← canonical?_solid proper, Text.solid_trim, canonical?_solid proper]

end

/-- A character of a number in English as it is written in a language. -/
def translated (l : Locale) (c : Char) : Char :=
  if c = '.' then l.decimal else if c = ',' then l.group else c

theorem reading_translated (tag : String) (c : Char) :
    (ofTag tag).reading ((ofTag tag).translated c) = english.reading c := by
  obtain ⟨hpoint, hcomma⟩ := separators_english
  have proper := isProper_ofTag tag
  have hseparators := separators_ofTag tag
  generalize ofTag tag = l at *
  by_cases hc : c = '.'
  · rw [translated, if_pos hc, reading, if_pos rfl, reading, hpoint, if_pos hc]
  by_cases hc' : c = ','
  · have hgroup : l.isSpacing l.group := by simp [isSpacing]
    have hne : l.group ≠ l.decimal := by
      intro h
      rw [h, proper] at hgroup
      cases hgroup
    rw [translated, if_neg hc, if_pos hc', reading, if_neg hne, if_pos hgroup, reading, hpoint,
      if_neg hc, isSpacing, hcomma, if_pos (by simp [hc'])]
  · have hdecimal : c ≠ l.decimal := by
      rcases hseparators with h | h | h <;> rw [h.1] <;> assumption
    have hspacing : l.isSpacing c = Text.isBlank c := by
      rcases hseparators with h | h | h <;> rw [isSpacing, h.2]
      · simp [hc']
      · simp [hc]
      · by_cases hspace : c = '\u00A0'
        · rw [hspace]
          decide
        · simp [hspace]
    have hspacing' : english.isSpacing c = Text.isBlank c := by simp [isSpacing, hcomma, hc']
    rw [translated, if_neg hc, if_neg hc', reading, reading, if_neg hdecimal, hpoint, if_neg hc,
      hspacing, hspacing']

theorem parse?_eq {l : Locale} (proper : l.IsProper) (s : String) :
    l.parse? s = (l.canonical? s.toList).bind fun t => (decimal? t).filter Binary64.isFinite := by
  rw [parse?, canonical?_trim proper]
  cases l.canonical? s.toList <;> rfl

/-- A text is a number in a language just if it spells one in plain characters and has no point
    that the language has no use for; the number is rounded once and must be finite. A number in
    English is the same number in every language when its separators are exchanged. -/
theorem numbers_read (tag s : String) (x : Binary64) :
    ((ofTag tag).parse? s = some x ↔ (ofTag tag).SparesPoint s.toList ∧
      ∃ negative whole fraction, Spells whole fraction negative ((ofTag tag).plainText s.toList) ∧
        Binary64.IsRounded negative (quantity whole fraction) x ∧ x.isFinite) ∧
    (ofTag tag).parse? (s.map (ofTag tag).translated) = english.parse? s := by
  have proper := isProper_ofTag tag
  constructor
  · rw [parse?_eq proper, Option.bind_eq_some_iff]
    constructor
    · rintro ⟨t, ht, hx⟩
      obtain ⟨hspares, -, rfl⟩ := (canonical?_eq_some_iff proper).1 ht
      obtain ⟨hx, hfinite⟩ := Option.filter_eq_some_iff.1 hx
      obtain ⟨negative, whole, fraction, hspells, rfl⟩ := decimal?_eq_some_iff.1 hx
      exact ⟨hspares, negative, whole, fraction, hspells, isRounded_nearest .., hfinite⟩
    · rintro ⟨hspares, negative, whole, fraction, hspells, hrounded, hfinite⟩
      obtain rfl := hrounded.unique (isRounded_nearest negative whole fraction)
      refine ⟨_, (canonical?_eq_some_iff proper).2 ⟨hspares, fun c => hspells.mem, rfl⟩, ?_⟩
      exact Option.filter_eq_some_iff.2
        ⟨decimal?_eq_some_iff.2 ⟨negative, whole, fraction, hspells, rfl⟩, hfinite⟩
  · have henglish := parse?_eq (isProper_ofTag "en") s
    rw [← english] at henglish
    rw [henglish, parse?_eq proper, String.toList_map, canonical?_map _ (reading_translated tag)]

/-- A text that spells a number in plain characters is none in French if it has a point. -/
theorem point_refused :
    (∃ whole fraction x, Spells whole fraction false ((ofTag "fr").plainText "1.5".toList) ∧
      Binary64.IsRounded false (quantity whole fraction) x ∧ x.isFinite) ∧
    (ofTag "fr").parse? "1.5" = none := by
  have htext : (ofTag "fr").plainText "1.5".toList = ['1', '.', '5'] := by decide +kernel
  refine ⟨⟨['1'], ['5'], _, ?_, isRounded_nearest .., by decide +kernel⟩, by decide +kernel⟩
  have hdigits : ∀ c ∈ ['1'] ++ ['5'], c.isDigit := by simp
  rw [htext]
  exact .plain ⟨hdigits, by simp, _, .point, rfl⟩

end Harvest.Locale
