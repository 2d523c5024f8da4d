import Mathlib.Data.List.Induction
import Harvest.Url.Address
/-!
Addresses are read back from their text. An address of version 4 is written as its four bytes in
decimal; one of version 6 as its pieces in hexadecimal, a run of zeros standing between two colons.
-/

namespace Harvest.Url.Address

section Digits

variable {base n : Nat}

theorem hexValue?_digitChar {d : Nat} (h : d < 16) : hexValue? (Nat.digitChar d) = some d := by
  have hall : ∀ d < 16, hexValue? (Nat.digitChar d) = some d := by decide
  exact hall d h

theorem digits?_concat (base : Nat) (s : List Char) (c : Char) :
    digits? base (s ++ [c]) = (digits? base s).bind fun n =>
      (hexValue? c).bind fun d => if d < base then some (n * base + d) else none := by
  simp only [digits?, List.foldl_append, List.foldl_cons, List.foldl_nil]
  rfl

theorem digits?_concat_digitChar {s : List Char} {d m : Nat} (hs : digits? base s = some m)
    (hbase : base ≤ 16) (hd : d < base) :
    digits? base (s ++ [Nat.digitChar d]) = some (m * base + d) := by
  rw [digits?_concat, hs, hexValue?_digitChar (by omega)]
  exact if_pos hd

theorem digits?_toDigits (hone : 1 < base) (hbase : base ≤ 16) (n : Nat) :
    digits? base (Nat.toDigits base n) = some n := by
  induction n using Nat.strongRecOn with
  | ind n ih =>
    rcases Nat.lt_or_ge n base with hn | hn
    · rw [Nat.toDigits_of_lt_base hn]
      have hlast := digits?_concat_digitChar (s := []) rfl hbase hn
      rwa [Nat.zero_mul, Nat.zero_add] at hlast
    · rw [Nat.toDigits_of_base_le hone hn]
      have hdiv : n / base < n := Nat.div_lt_self (by omega) hone
      rw [digits?_concat_digitChar (ih _ hdiv) hbase (Nat.mod_lt _ (by omega)), Nat.div_add_mod']

theorem exists_of_mem_toDigits (hone : 1 < base) {c : Char} (h : c ∈ Nat.toDigits base n) :
    ∃ d < base, c = Nat.digitChar d := by
  induction n using Nat.strongRecOn with
  | ind n ih =>
    rcases Nat.lt_or_ge n base with hn | hn
    · rw [Nat.toDigits_of_lt_base hn] at h
      exact ⟨n, hn, List.mem_singleton.1 h⟩
    · rw [Nat.toDigits_of_base_le hone hn] at h
      rcases List.mem_append.1 h with h | h
      · exact ih _ (Nat.div_lt_self (by omega) hone) h
      · exact ⟨n % base, Nat.mod_lt _ (by omega), List.mem_singleton.1 h⟩

theorem digits?_lt {s : List Char} (h : digits? base s = some n) :
    n < Nat.pow base s.length := by
  induction s using List.reverseRecOn generalizing n with
  | nil =>
    cases h
    exact Nat.one_pos
  | append_singleton s c ih =>
    rw [digits?_concat] at h
    obtain ⟨m, hm, h⟩ := Option.bind_eq_some_iff.1 h
    obtain ⟨d, -, h⟩ := Option.bind_eq_some_iff.1 h
    split at h
    · rename_i hd
      cases h
      have hle : (m + 1) * base ≤ Nat.pow base s.length * base := Nat.mul_le_mul_right _ (ih hm)
      rw [List.length_append]
      calc m * base + d < m * base + base := by omega
        _ = (m + 1) * base := (Nat.succ_mul m base).symm
        _ ≤ Nat.pow base s.length * base := hle
    · cases h

end Digits

section Lists

variable {α β : Type}

theorem splitChars_eq_splitOnP (p : Char → Bool) (s : List Char) :
    Text.splitChars p s = s.splitOnP p := by
  induction s with
  | nil => rfl
  | cons c s ih =>
    rw [Text.splitChars, List.splitOnP_cons_eq_if_modifyHead, ← ih]
    cases hsplit : Text.splitChars p s with
    | nil => exact absurd (ih.symm.trans hsplit) (List.splitOnP_ne_nil p s)
    | cons part parts => rfl

theorem splitChars_intercalate {c : Char} {parts : List (List Char)}
    (h : ∀ part ∈ parts, c ∉ part) (hne : parts ≠ []) :
    Text.splitChars (· = c) ([c].intercalate parts) = parts := by
  rw [splitChars_eq_splitOnP]
  exact List.splitOn_intercalate c h hne

theorem splitChars_of_not_mem {c : Char} {s : List Char} (h : c ∉ s) :
    Text.splitChars (· = c) s = [s] := by
  rw [splitChars_eq_splitOnP]
  exact List.splitOn_eq_singleton h

theorem mapM_map_eq_some {f : β → Option α} {g : α → β} {l : List α}
    (h : ∀ a ∈ l, f (g a) = some a) : (l.map g).mapM f = some l := by
  induction l with
  | nil => rfl
  | cons a l ih =>
    rw [List.map_cons, List.mapM_cons, h a List.mem_cons_self,
      ih fun b hb => h b (List.mem_cons_of_mem a hb)]
    rfl

theorem forall_of_mapM {f : β → Option α} {p : α → Prop} {l : List β} {l' : List α}
    (h : l.mapM f = some l') (hf : ∀ b ∈ l, ∀ a, f b = some a → p a) : ∀ a ∈ l', p a := by
  induction l generalizing l' with
  | nil =>
    cases h
    simp
  | cons b l ih =>
    rw [List.mapM_cons] at h
    obtain ⟨a, ha, h⟩ := Option.bind_eq_some_iff.1 h
    obtain ⟨rest, hrest, h⟩ := Option.bind_eq_some_iff.1 h
    cases h
    intro x hx
    rcases List.mem_cons.1 hx with rfl | hx
    · exact hf b List.mem_cons_self x ha
    · exact ih hrest (fun c hc => hf c (List.mem_cons_of_mem b hc)) x hx

theorem length_of_mapM {f : β → Option α} {l : List β} {l' : List α} (h : l.mapM f = some l') :
    l'.length = l.length := by
  induction l generalizing l' with
  | nil =>
    cases h
    rfl
  | cons b l ih =>
    rw [List.mapM_cons] at h
    obtain ⟨a, -, h⟩ := Option.bind_eq_some_iff.1 h
    obtain ⟨rest, hrest, h⟩ := Option.bind_eq_some_iff.1 h
    cases h
    rw [List.length_cons, List.length_cons, ih hrest]

end Lists

/-! Version 4 -/

theorem v4Bytes_lt {n b : Nat} (h : b ∈ v4Bytes n) : b < 256 := by
  simp only [v4Bytes, List.mem_cons, List.not_mem_nil, or_false] at h
  omega

theorem embeddedByte?_toDigits {b : Nat} (h : b < 256) :
    embeddedByte? (Nat.toDigits 10 b) = some b := by
  have hall : ∀ b < 256, embeddedByte? (Nat.toDigits 10 b) = some b := by decide +kernel
  exact hall b h

theorem toList_v4Text (n : Nat) :
    (v4Text n).toList = ['.'].intercalate ((v4Bytes n).map (Nat.toDigits 10)) := by
  rw [v4Text, String.toList_intercalate, List.map_map]
  congr 1
  refine List.map_congr_left fun b _ => ?_
  simp

theorem digits_have_no {c : Char} (hc : c.isDigit = false) (n : Nat) : c ∉ Nat.toDigits 10 n := by
  intro h
  rw [Nat.isDigit_of_mem_toDigits (by decide) (by decide) h] at hc
  cases hc

theorem v4Text_has_no {c : Char} (hc : c.isDigit = false) (hdot : c ≠ '.') (n : Nat) :
    c ∉ (v4Text n).toList := by
  have hno := digits_have_no hc
  simp [toList_v4Text, v4Bytes, hno, hdot]

theorem embedded?_v4Text {n : Nat} (h : n < Nat.pow 2 32) :
    embedded? (v4Text n).toList = some [n / Nat.pow 2 16, n % Nat.pow 2 16] := by
  have hdot : ∀ part ∈ (v4Bytes n).map (Nat.toDigits 10), '.' ∉ part := by
    intro part hpart
    obtain ⟨b, -, rfl⟩ := List.mem_map.1 hpart
    exact digits_have_no rfl b
  have hbytes : ((v4Bytes n).map (Nat.toDigits 10)).mapM embeddedByte? = some (v4Bytes n) :=
    mapM_map_eq_some fun b hb => embeddedByte?_toDigits (v4Bytes_lt hb)
  rw [toList_v4Text, embedded?, parts, splitChars_intercalate hdot (by simp [v4Bytes]), hbytes]
  simp only [v4Bytes, Nat.pow_eq, Nat.reducePow] at h ⊢
  congr 2
  · omega
  · congr 1
    omega

/-! Version 6 -/

theorem toList_hexText (n : Nat) : (hexText n).toList = Nat.toDigits 16 n := by
  simp [hexText]

theorem hexText_has_no {c : Char} (hc : ∀ d < 16, Nat.digitChar d ≠ c) (n : Nat) :
    c ∉ Nat.toDigits 16 n := by
  intro h
  obtain ⟨d, hd, rfl⟩ := exists_of_mem_toDigits (by decide) h
  exact hc d hd rfl

theorem piece?_toDigits {n : Nat} (h : n < Nat.pow 2 16) : piece? (Nat.toDigits 16 n) = some n := by
  have hlength : (Nat.toDigits 16 n).length ≤ 4 := by
    rw [Nat.length_toDigits_le_iff (by decide) (by decide)]
    exact h
  unfold piece?
  rw [if_neg (by simpa [Nat.toDigits_ne_nil] using hlength)]
  exact digits?_toDigits (by decide) (by decide) n

/-- The text of pieces between colons. -/
def joined (ps : List Nat) : List Char := [':'].intercalate (ps.map (Nat.toDigits 16))

theorem toList_join (ps : List Nat) : (":".intercalate (ps.map hexText)).toList = joined ps := by
  rw [String.toList_intercalate, List.map_map, joined]
  congr 1
  refine List.map_congr_left fun b _ => ?_
  simp [toList_hexText]

theorem joined_cons_cons (p q : Nat) (ps : List Nat) :
    joined (p :: q :: ps) = Nat.toDigits 16 p ++ ':' :: joined (q :: ps) := by
  simp [joined]

theorem colon_not_mem_toDigits (n : Nat) : ':' ∉ Nat.toDigits 16 n :=
  hexText_has_no (by decide) n

/-- Pieces do not begin with a colon. -/
theorem exists_joined_cons (p : Nat) (ps : List Nat) :
    ∃ c r, joined (p :: ps) = c :: r ∧ c ≠ ':' := by
  obtain ⟨c, r, hdigits⟩ := List.exists_cons_of_ne_nil (Nat.toDigits_ne_nil (n := p) (b := 16))
  have hc : c ≠ ':' := by
    rintro rfl
    exact colon_not_mem_toDigits p (by simp [hdigits])
  cases ps with
  | nil => exact ⟨c, r, by simp [joined, hdigits], hc⟩
  | cons q ps => exact ⟨c, r ++ ':' :: joined (q :: ps), by simp [joined_cons_cons, hdigits], hc⟩

theorem splitChars_joined {ps : List Nat} (hne : ps ≠ []) :
    Text.splitChars (· = ':') (joined ps) = ps.map (Nat.toDigits 16) := by
  refine splitChars_intercalate (fun part hpart => ?_) (by simpa using hne)
  obtain ⟨p, -, rfl⟩ := List.mem_map.1 hpart
  exact colon_not_mem_toDigits p

theorem dot_not_mem_toDigits (n : Nat) : '.' ∉ Nat.toDigits 16 n :=
  hexText_has_no (by decide) n

theorem joined_ne_nil {ps : List Nat} (hne : ps ≠ []) : joined ps ≠ [] := by
  obtain ⟨p, rest, rfl⟩ := List.exists_cons_of_ne_nil hne
  obtain ⟨c, r, hjoined, -⟩ := exists_joined_cons p rest
  rw [hjoined]
  exact List.cons_ne_nil c r

theorem pieces?_joined {ps : List Nat} (h : ∀ p ∈ ps, p < Nat.pow 2 16) :
    pieces? (joined ps) = some ps := by
  induction ps using List.reverseRecOn with
  | nil => rfl
  | append_singleton front last _ =>
    have hne : front ++ [last] ≠ [] := List.append_ne_nil_of_right_ne_nil _ (List.cons_ne_nil _ _)
    have hfront : (front.map (Nat.toDigits 16)).mapM piece? = some front :=
      mapM_map_eq_some fun p hp => piece?_toDigits (h p (List.mem_append_left _ hp))
    have hlast : piece? (Nat.toDigits 16 last) = some last := piece?_toDigits (h last (by simp))
    have hdot : (Nat.toDigits 16 last).contains '.' = false := by
      simpa using dot_not_mem_toDigits last
    unfold pieces?
    rw [if_neg (by simpa using joined_ne_nil hne), splitChars_joined hne]
    simp only [List.map_append, List.map_cons, List.map_nil, List.reverse_append,
      List.reverse_cons, List.reverse_nil, List.nil_append, List.cons_append, List.reverse_reverse,
      hfront, hlast, hdot]
    rfl

theorem splitDouble_cons {c : Char} (h : c ≠ ':') (r : List Char) :
    splitDouble (c :: r) = (splitDouble r).map fun x => (c :: x.1, x.2) := by
  rw [splitDouble]
  rintro r' rfl
  exact absurd rfl h

theorem splitDouble_colon {c : Char} (h : c ≠ ':') (r : List Char) :
    splitDouble (':' :: c :: r) = (splitDouble (c :: r)).map fun x => (':' :: x.1, x.2) := by
  rw [splitDouble]
  rintro r' - hr
  cases hr
  exact h rfl

theorem splitDouble_append {part : List Char} (h : ':' ∉ part) (r : List Char) :
    splitDouble (part ++ r) = (splitDouble r).map fun x => (part ++ x.1, x.2) := by
  induction part with
  | nil => simp
  | cons c part ih =>
    rw [List.mem_cons, not_or] at h
    rw [List.cons_append, splitDouble_cons (Ne.symm h.1), ih h.2, Option.map_map]
    rfl

/-- There are no two colons in a row among pieces, nor where they end. -/
theorem splitDouble_joined (ps : List Nat) (r : List Char) :
    splitDouble (joined ps ++ r) = (splitDouble r).map fun x => (joined ps ++ x.1, x.2) := by
  induction ps with
  | nil => simp [joined]
  | cons p ps ih =>
    cases ps with
    | nil =>
      have hjoined : joined [p] = Nat.toDigits 16 p := by simp [joined]
      rw [hjoined, splitDouble_append (colon_not_mem_toDigits p)]
    | cons q ps =>
      obtain ⟨c, rest, hjoined, hc⟩ := exists_joined_cons q ps
      rw [joined_cons_cons, List.append_assoc, splitDouble_append (colon_not_mem_toDigits p),
        List.cons_append]
      rw [hjoined, List.cons_append] at ih ⊢
      rw [splitDouble_colon hc, ih, Option.map_map, Option.map_map]
      simp [Function.comp_def]

theorem zeroRun_cons (n : Nat) (ps : List Nat) :
    zeroRun (n :: ps) = if n = 0 then zeroRun ps + 1 else 0 := by
  unfold zeroRun
  split <;> simp_all

theorem replicate_zeroRun (ps : List Nat) :
    List.replicate (zeroRun ps) 0 ++ ps.drop (zeroRun ps) = ps := by
  induction ps with
  | nil => rfl
  | cons n ps ih =>
    rw [zeroRun_cons]
    split
    · rename_i hzero
      rw [List.replicate_succ, List.cons_append, List.drop_succ_cons, ih, hzero]
    · rfl

theorem zeroRun_le (ps : List Nat) : zeroRun ps ≤ ps.length := by
  have hlength := congrArg List.length (replicate_zeroRun ps)
  rw [List.length_append, List.length_replicate] at hlength
  omega

/-- The run that is left out is one of at least two zeros. -/
theorem longestRun_spec {ps : List Nat} {i n : Nat} (h : longestRun ps = some (i, n)) :
    2 ≤ n ∧ n = zeroRun (ps.drop i) := by
  suffices hspec : ∀ run, longestRun ps = some run →
      2 ≤ run.2 ∧ run.2 = zeroRun (ps.drop run.1) from hspec _ h
  unfold longestRun
  refine List.foldlRecOn (motive := fun (best : Option (Nat × Nat)) => ∀ run, best = some run →
    2 ≤ run.2 ∧ run.2 = zeroRun (ps.drop run.1)) _ _ (by simp) ?_
  intro best hbest run hrun result hresult
  obtain ⟨j, -, rfl⟩ := List.mem_map.1 hrun
  dsimp only at hresult
  split at hresult
  · exact hbest result hresult
  · rename_i htwo
    have hnew : 2 ≤ zeroRun (ps.drop j) := Nat.not_lt.1 htwo
    cases best with
    | none =>
      cases hresult
      exact ⟨hnew, rfl⟩
    | some longest =>
      dsimp only at hresult
      split at hresult
      · cases hresult
        exact ⟨hnew, rfl⟩
      · exact hbest result hresult

theorem joined_has_no {c : Char} (hc : ∀ d < 16, Nat.digitChar d ≠ c) (hcolon : c ≠ ':')
    (ps : List Nat) : c ∉ joined ps := by
  induction ps with
  | nil => simp [joined]
  | cons p ps ih =>
    have hp : c ∉ Nat.toDigits 16 p := hexText_has_no hc p
    cases ps with
    | nil => simpa [joined] using hp
    | cons q ps =>
      rw [joined_cons_cons]
      simp only [List.mem_append, List.mem_cons, not_or]
      exact ⟨hp, hcolon, ih⟩

/-- The text of an address of version 6, as it is in full or with the run that is left out. -/
theorem toList_v6Text (ps : List Nat) :
    (longestRun ps = none ∧ (v6Text ps).toList = joined ps) ∨
    ∃ i n, longestRun ps = some (i, n) ∧
      (v6Text ps).toList = joined (ps.take i) ++ ':' :: ':' :: joined (ps.drop (i + n)) := by
  unfold v6Text
  cases hrun : longestRun ps with
  | none => exact .inl ⟨rfl, toList_join ps⟩
  | some run =>
    refine .inr ⟨run.1, run.2, rfl, ?_⟩
    dsimp only
    rw [String.toList_append, String.toList_append, toList_join, toList_join, List.append_assoc]
    rfl

theorem v6?_v6Text {ps : List Nat} (hlength : ps.length = 8) (h : ∀ p ∈ ps, p < Nat.pow 2 16) :
    v6? (v6Text ps).toList = some ps := by
  rcases toList_v6Text ps with ⟨-, htext⟩ | ⟨i, n, hrun, htext⟩
  · have hsplit : splitDouble (joined ps) = none := by
      have hjoined := splitDouble_joined ps []
      rwa [List.append_nil] at hjoined
    rw [htext, v6?, hsplit]
    dsimp only
    rw [pieces?_joined h]
    exact if_pos hlength
  · obtain ⟨htwo, hzeros⟩ := longestRun_spec hrun
    have hsplit : splitDouble (joined (ps.take i) ++ ':' :: ':' :: joined (ps.drop (i + n))) =
        some (joined (ps.take i), joined (ps.drop (i + n))) := by
      rw [splitDouble_joined]
      simp [splitDouble]
    have hdot : (joined (ps.take i)).contains '.' = false := by
      simpa using joined_has_no (by decide) (by decide) (ps.take i)
    have hhead : pieces? (joined (ps.take i)) = some (ps.take i) :=
      pieces?_joined fun p hp => h p (List.mem_of_mem_take hp)
    have htail : pieces? (joined (ps.drop (i + n))) = some (ps.drop (i + n)) :=
      pieces?_joined fun p hp => h p (List.mem_of_mem_drop hp)
    have hle : i + n ≤ 8 := by
      have hle := zeroRun_le (ps.drop i)
      rw [List.length_drop] at hle
      omega
    have hwhole : ps.take i ++ List.replicate n 0 ++ ps.drop (i + n) = ps := by
      have hrest := replicate_zeroRun (ps.drop i)
      rw [← hzeros, List.drop_drop] at hrest
      rw [List.append_assoc, hrest, List.take_append_drop]
    have hlengths : (ps.take i).length = i ∧ (ps.drop (i + n)).length = 8 - (i + n) := by
      rw [List.length_take, List.length_drop]
      omega
    have hmissing : 8 - (i + (8 - (i + n))) = n := by omega
    rw [htext, v6?, hsplit]
    dsimp only
    rw [hdot, hhead, htail]
    simp only [Bool.false_eq_true, if_false, Option.bind_eq_bind, Option.bind_some, hlengths.1,
      hlengths.2, hmissing, hwhole]
    exact if_neg (by omega)

theorem v6Text_has_no {c : Char} (hc : ∀ d < 16, Nat.digitChar d ≠ c) (hcolon : c ≠ ':')
    (ps : List Nat) : c ∉ (v6Text ps).toList := by
  have hno (qs : List Nat) : c ∉ joined qs := joined_has_no hc hcolon qs
  rcases toList_v6Text ps with ⟨-, htext⟩ | ⟨i, n, -, htext⟩
  · rw [htext]
    exact hno ps
  · rw [htext]
    simp [hno, hcolon]

/-- An address of version 6 is not taken for one of version 4. -/
theorem embedded?_v6Text (ps : List Nat) : embedded? (v6Text ps).toList = none := by
  have hnone : '.' ∉ (v6Text ps).toList := v6Text_has_no (by decide) (by decide) ps
  rw [embedded?, parts, splitChars_of_not_mem hnone, List.mapM_cons, List.mapM_nil]
  cases embeddedByte? (v6Text ps).toList <;> rfl

/-! What is read is an address -/

theorem piece?_lt {s : List Char} {n : Nat} (h : piece? s = some n) : n < Nat.pow 2 16 := by
  unfold piece? at h
  split at h
  · cases h
  · rename_i hlength
    have hle : Nat.pow 16 s.length ≤ Nat.pow 16 4 :=
      Nat.pow_le_pow_right (by decide) (Nat.not_lt.1 fun hlong => hlength (.inr hlong))
    exact Nat.lt_of_lt_of_le (digits?_lt h) hle

theorem embeddedByte?_le {s : List Char} {n : Nat} (h : embeddedByte? s = some n) : n ≤ 255 := by
  unfold embeddedByte? at h
  split at h
  · cases h
  · cases h
    decide
  · cases h
  · split at h
    · cases h
    · obtain ⟨m, -, hm⟩ := Option.bind_eq_some_iff.1 h
      split at hm
      · rename_i hle
        cases hm
        exact hle
      · cases hm

theorem embedded?_lt {s : List Char} {ps : List Nat} (h : embedded? s = some ps) :
    ∀ p ∈ ps, p < Nat.pow 2 16 := by
  unfold embedded? at h
  split at h
  · rename_i a b c d hbytes
    cases h
    have hle := forall_of_mapM (p := (· ≤ 255)) hbytes fun t _ n => embeddedByte?_le
    simp only [List.mem_cons, List.not_mem_nil, or_false, forall_eq_or_imp, forall_eq] at hle ⊢
    simp only [Nat.pow_eq, Nat.reducePow]
    omega
  · cases h

theorem pieces?_lt {s : List Char} {ps : List Nat} (h : pieces? s = some ps) :
    ∀ p ∈ ps, p < Nat.pow 2 16 := by
  unfold pieces? at h
  split at h
  · cases h
    simp
  · dsimp only at h
    split at h
    · cases h
    · rename_i last front _
      obtain ⟨head, hhead, h⟩ := Option.bind_eq_some_iff.1 h
      have hfront : ∀ p ∈ head, p < Nat.pow 2 16 :=
        forall_of_mapM hhead fun t _ n => piece?_lt
      split at h
      · obtain ⟨pair, hpair, h⟩ := Option.bind_eq_some_iff.1 h
        cases h
        intro p hp
        rcases List.mem_append.1 hp with hp | hp
        · exact hfront p hp
        · exact embedded?_lt hpair p hp
      · obtain ⟨p, hpiece, h⟩ := Option.bind_eq_some_iff.1 h
        cases h
        intro q hq
        rcases List.mem_append.1 hq with hq | hq
        · exact hfront q hq
        · obtain rfl := List.mem_singleton.1 hq
          exact piece?_lt hpiece

theorem v6?_regular {s : List Char} {ps : List Nat} (h : v6? s = some ps) :
    ps.length = 8 ∧ ∀ p ∈ ps, p < Nat.pow 2 16 := by
  unfold v6? at h
  split at h
  · obtain ⟨qs, hqs, h⟩ := Option.bind_eq_some_iff.1 h
    split at h
    · rename_i hlength
      cases h
      exact ⟨hlength, pieces?_lt hqs⟩
    · cases h
  · split at h
    · cases h
    · obtain ⟨head, hhead, h⟩ := Option.bind_eq_some_iff.1 h
      obtain ⟨tail, htail, h⟩ := Option.bind_eq_some_iff.1 h
      dsimp only at h
      split at h
      · cases h
      · cases h
        refine ⟨?_, fun p hp => ?_⟩
        · simp only [List.length_append, List.length_replicate]
          omega
        · simp only [List.mem_append, List.mem_replicate] at hp
          rcases hp with (hp | ⟨-, rfl⟩) | hp
          · exact pieces?_lt hhead p hp
          · decide
          · exact pieces?_lt htail p hp

/-- Bytes by their weights fill no more than what the weight in front of them leaves. -/
theorem weighted_le {weight bound : Nat → Nat} {bytes : List Nat} (hbytes : ∀ b ∈ bytes, b ≤ 255)
    (i n : Nat) (hweight : ∀ j < i + bytes.length,
      bound j = 256 * weight j ∧ weight j = bound (j + 1)) :
    (bytes.zipIdx i).foldl (fun n x => n + x.1 * weight x.2) n + bound (i + bytes.length) ≤
      n + bound i := by
  induction bytes generalizing i n with
  | nil => exact Nat.le_refl _
  | cons b bytes ih =>
    obtain ⟨hbound, hnext⟩ := hweight i (by simp)
    have hb : (b + 1) * weight i ≤ 256 * weight i :=
      Nat.mul_le_mul_right _ (Nat.succ_le_succ (hbytes b List.mem_cons_self))
    have hrest := ih (fun c hc => hbytes c (List.mem_cons_of_mem b hc)) (i + 1)
      (n + b * weight i) (fun j hj => hweight j (by simp only [List.length_cons]; omega))
    rw [List.zipIdx_cons, List.foldl_cons, List.length_cons, ← Nat.add_assoc]
    rw [Nat.succ_mul] at hb
    rw [Nat.add_right_comm] at hrest
    dsimp only
    omega

/-- The number of up to three bytes and what fills the rest. -/
theorem filled_lt {front : List Nat} {last : Nat} (hlength : front.length ≤ 3)
    (hbytes : ∀ b ∈ front, b ≤ 255) (hlast : last < Nat.pow 256 (4 - front.length)) :
    front.zipIdx.foldl (fun n x => n + x.1 * Nat.pow 256 (3 - x.2)) last < Nat.pow 2 32 := by
  have hweight (j : Nat) (hj : j < 0 + front.length) :
      Nat.pow 256 (4 - j) = 256 * Nat.pow 256 (3 - j) ∧
        Nat.pow 256 (3 - j) = Nat.pow 256 (4 - (j + 1)) := by
    have hfour : 4 - j = (3 - j) + 1 := by omega
    have hthree : 3 - j = 4 - (j + 1) := by omega
    refine ⟨?_, congrArg (Nat.pow 256) hthree⟩
    rw [hfour, Nat.mul_comm]
    rfl
  have hsum := weighted_le hbytes 0 last hweight
  have hall : Nat.pow 256 (4 - 0) = Nat.pow 2 32 := by decide
  rw [hall, Nat.zero_add] at hsum
  omega

theorem v4?_lt {s : List Char} {n : Nat} (h : v4? s = some n) : n < Nat.pow 2 32 := by
  unfold v4? at h
  extract_lets numerals fields at h
  clear_value fields
  split at h
  · cases h
  · rename_i hfew
    split at h
    · cases h
    · rename_i ns hns
      split at h
      · cases h
      · rename_i last front hreverse
        split at h
        · cases h
        · rename_i hfits
          obtain rfl := Option.some.inj h
          have hlength : ns.length = front.length + 1 := by
            rw [← List.length_reverse, hreverse, List.length_cons]
          have hcount := length_of_mapM hns
          rw [not_or] at hfits
          obtain ⟨hlast, hbytes⟩ := hfits
          have hall : ∀ b ∈ front, b ≤ 255 := by simpa using hbytes
          refine filled_lt ?_ (fun b hb => hall b (List.mem_reverse.1 hb)) ?_
          · rw [List.length_reverse]
            omega
          · rw [List.length_reverse]
            exact Nat.not_le.1 hlast

end Harvest.Url.Address
