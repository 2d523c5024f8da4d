import Harvest.Proofs.Regex.Lengths
/-!
What a dollar sign at the end of a text does to its reading. No part of the reader takes it for its
own, but for an escape whose backslash stands before it and for a comment: so what is read of the
text with the sign is read of the text alone, and leaves the sign.
-/

namespace Harvest.Regex.Reader

open Harvest.Text (CharSet)

variable {α : Type} {f : Flags} {s r : List Char}

/-- Whether `read` gives of a text what was read of it with a dollar sign at its end. -/
def Spares (read : Except Fault (α × List Char)) (a : α) (r : List Char) : Prop :=
  ∃ r', r = r' ++ ['$'] ∧ read = .ok (a, r')

theorem dollar_ne {c : Char} (hc : c ≠ '$') (h : ∀ r, s ≠ c :: r) (r : List Char) :
    s ++ ['$'] ≠ c :: r := by
  cases s with
  | nil => simp [hc.symm]
  | cons d t =>
    intro heq
    exact h t (by rw [(List.cons.inj heq).1])

theorem dollar_ne_two {c d : Char} (hc : c ≠ '$') (hd : d ≠ '$') (h : ∀ r, s ≠ c :: d :: r)
    (r : List Char) : s ++ ['$'] ≠ c :: d :: r := by
  cases s with
  | nil => simp [hc.symm]
  | cons e t =>
    intro heq
    obtain ⟨rfl, ht⟩ := List.cons.inj heq
    exact dollar_ne hd (fun r hr => h r (by rw [hr])) r ht

theorem skip_nil (f : Flags) : skip f [] = [] := by
  unfold skip
  split <;> rfl

theorem skipBlanks_dollar (comment : Bool) (s : List Char) :
    skipBlanks comment (s ++ ['$']) = skipBlanks comment s ++ ['$'] ∨
      skipBlanks comment s = [] ∧ skipBlanks comment (s ++ ['$']) = [] := by
  induction s generalizing comment with
  | nil => cases comment <;> decide
  | cons c t ih =>
    cases comment with
    | true => simpa [skipBlanks] using ih (c != '\n')
    | false =>
      simp only [List.cons_append, skipBlanks]
      split
      · exact ih false
      · split
        · exact ih true
        · exact .inl rfl

/-- Skipping stops before the dollar sign, or in a comment that takes it in. -/
theorem skip_dollar (f : Flags) (s : List Char) :
    skip f (s ++ ['$']) = skip f s ++ ['$'] ∨ skip f s = [] ∧ skip f (s ++ ['$']) = [] := by
  unfold skip
  split
  · exact skipBlanks_dollar false s
  · exact .inl rfl

section

variable {p : Char → Bool}

theorem dropWhile_dollar (hp : p '$' = false) (s : List Char) :
    (s ++ ['$']).dropWhile p = s.dropWhile p ++ ['$'] := by
  induction s with
  | nil => simp [hp]
  | cons c t ih => cases hc : p c <;> simp [hc, ih]

theorem takeWhile_dollar (hp : p '$' = false) (s : List Char) :
    (s ++ ['$']).takeWhile p = s.takeWhile p := by
  induction s with
  | nil => simp [hp]
  | cons c t ih => cases hc : p c <;> simp [hc, ih]

/-- A search for a character other than the dollar sign finds it before the sign. -/
theorem exists_of_dropWhile_dollar (hp : p '$' = true) {c : Char}
    (h : (s ++ ['$']).dropWhile p = c :: r) :
    ∃ r', r = r' ++ ['$'] ∧ s.dropWhile p = c :: r' ∧ (s ++ ['$']).takeWhile p = s.takeWhile p := by
  induction s with
  | nil => simp [hp] at h
  | cons d t ih =>
    cases hd : p d with
    | true =>
      simp only [List.cons_append, List.dropWhile_cons, hd, if_true] at h
      obtain ⟨r', hr, hdrop, htake⟩ := ih h
      exact ⟨r', hr, by simp [hd, hdrop], by simp [hd, htake]⟩
    | false =>
      simp only [List.cons_append, List.dropWhile_cons, hd] at h
      cases h
      exact ⟨t, rfl, by simp [hd], by simp [hd]⟩

end

theorem hexNumber?_dollar (s : List Char) : hexNumber? (s ++ ['$']) = none := by
  have hvalue : hexValue? '$' = none := by decide
  cases s with
  | nil => decide
  | cons c t =>
    simp only [hexNumber?, List.cons_append]
    rw [← List.cons_append, List.foldl_append]
    simp [hvalue]

/-- Digits of a given number do not reach up to the dollar sign. -/
theorem length_of_hexNumber? {width : Nat} {c : Char}
    (hc : (hexNumber? ((s ++ ['$']).take width)).bind scalar? = some c) : width ≤ s.length := by
  by_cases h : width ≤ s.length
  · exact h
  · have htake : (s ++ ['$']).take width = s ++ ['$'] :=
      List.take_of_length_le (by simp only [List.length_append, List.length_singleton]; omega)
    simp [htake, hexNumber?_dollar] at hc

theorem hexEscape_dollar {width : Nat} {a : Atom} (hwidth : 2 ≤ width)
    (h : hexEscape f width (s ++ ['$']) = .ok (a, r)) : Spares (hexEscape f width s) a r := by
  unfold hexEscape at h ⊢
  rcases skip_dollar f s with hs | ⟨-, hs⟩
  · rw [hs] at h
    cases ht : skip f s with
    | nil =>
      have hlen : min width 1 < width := by omega
      simp [ht, hlen] at h
    | cons c t =>
      by_cases hc : c = '\x7b'
      · subst hc
        simp only [ht, List.cons_append] at h ⊢
        split at h
        · rename_i hdrop hn
          obtain ⟨t', rfl, hdrop', htake⟩ := exists_of_dropWhile_dollar (by decide) hdrop
          rw [htake] at hn
          cases h
          exact ⟨t', rfl, by simp only [hdrop', hn]⟩
        · cases h
      · rw [ht] at h
        split at h
        · rename_i heq
          cases heq
          exact absurd rfl hc
        · split
          · rename_i heq
            cases heq
            exact absurd rfl hc
          · simp only at h ⊢
            split at h
            · cases h
            · split at h
              · rename_i n hn
                have hwidth' := length_of_hexNumber? hn
                rw [List.take_append_of_le_length hwidth'] at hn
                rw [List.drop_append_of_le_length hwidth'] at h
                cases h
                refine ⟨(c :: t).drop width, rfl, ?_⟩
                simp only [hn]
                rw [if_neg (by simp only [List.length_take]; omega)]
              · cases h
  · rw [hs] at h
    have hlen : 0 < width := by omega
    simp [hlen] at h

theorem property?_dollar : Class.property? ['$'] = none := by
  decide +kernel

theorem propertyEscape_dollar {negated : Bool} {a : Atom}
    (h : propertyEscape f negated (s ++ ['$']) = .ok (a, r)) :
    Spares (propertyEscape f negated s) a r := by
  unfold propertyEscape at h ⊢
  rcases skip_dollar f s with hs | ⟨-, hs⟩
  · rw [hs] at h
    cases ht : skip f s with
    | nil =>
      simp only [ht, List.nil_append] at h
      obtain ⟨a', ha', -⟩ := exists_of_map_ok h
      simp only [propertyAtom, property?_dollar] at ha'
      split at ha' <;> cases ha'
    | cons c t =>
      rw [ht, List.cons_append] at h
      split at h
      · rename_i heq
        cases heq
        split at h
        · rename_i hdrop
          obtain ⟨t', rfl, hdrop', htake⟩ := exists_of_dropWhile_dollar (by decide) hdrop
          obtain ⟨a', ha', heq⟩ := exists_of_map_ok h
          cases heq
          rw [htake] at ha'
          exact ⟨t', rfl, by simp only [hdrop', ha', Except.map]⟩
        · cases h
      · cases h
      · rename_i hbrace hslash heq
        cases heq
        obtain ⟨a', ha', heq⟩ := exists_of_map_ok h
        cases heq
        exact ⟨t, rfl, by simp [ha', Except.map]⟩
      · cases h
  · rw [hs] at h
    cases h

/-- A word boundary may also take the dollar sign for the beginning of a repetition that follows
    it, which then is none. -/
theorem boundaryEscape_dollar {a : Atom} (h : boundaryEscape f (s ++ ['$']) = .ok (a, r)) :
    Spares (boundaryEscape f s) a r ∨
      ∃ l t, a = .look l ∧ r = '\x7b' :: t ∧ skip f t = ['$'] := by
  unfold boundaryEscape at h ⊢
  split at h
  · rename_i t heq
    cases s with
    | nil => cases heq
    | cons c t' =>
      rw [List.cons_append] at heq
      obtain ⟨rfl, rfl⟩ := List.cons.inj heq
      simp only at h ⊢
      rcases skip_dollar f t' with hs | ⟨-, hs⟩
      · rw [hs] at h
        cases ht : skip f t' with
        | nil =>
          simp only [ht, List.nil_append] at h hs
          cases h
          exact .inr ⟨_, _, rfl, rfl, hs⟩
        | cons c t =>
          have hdrop := dropWhile_dollar (p := fun c => c.isAlpha || decide (c = '-'))
            (by decide) (c :: t)
          have htake := takeWhile_dollar (p := fun c => c.isAlpha || decide (c = '-'))
            (by decide) (c :: t)
          rw [List.cons_append] at hdrop htake
          simp only [ht, List.cons_append, hdrop, htake] at h ⊢
          split at h
          · rename_i hc
            cases h
            exact .inl ⟨'\x7b' :: t', rfl, by simp only [if_pos hc]⟩
          · rename_i hc
            rw [if_neg hc]
            cases hname : (c :: t).dropWhile fun c => c.isAlpha || decide (c = '-') with
            | nil => simp [hname] at h
            | cons d r' =>
              by_cases hd : d = '\x7d'
              · subst hd
                simp only [hname, List.cons_append] at h
                refine .inl ?_
                simp only
                split at h
                · cases h
                  exact ⟨r', rfl, rfl⟩
                · cases h
                  exact ⟨r', rfl, rfl⟩
                · cases h
                  exact ⟨r', rfl, rfl⟩
                · cases h
                  exact ⟨r', rfl, rfl⟩
                · cases h
              · simp [hname, hd] at h
      · simp only [hs] at h
        cases h
  · rename_i hbrace
    cases h
    refine .inl ⟨s, rfl, ?_⟩
    cases s with
    | nil => rfl
    | cons c t =>
      have hc : c ≠ '\x7b' := fun hc => hbrace (t ++ ['$']) (by simp [hc])
      simp [hc]

/-- An escape leaves the dollar sign alone, unless it stands right behind the backslash. -/
theorem escape_dollar {a : Atom} (h : escape f (s ++ ['$']) = .ok (a, r)) :
    Spares (escape f s) a r ∨ (s = [] ∧ r = []) ∨
      ∃ l t, a = .look l ∧ r = '\x7b' :: t ∧ skip f t = ['$'] := by
  cases s with
  | nil =>
    have hread : escape f ['$'] = .ok (.char '$' false, []) := rfl
    rw [List.nil_append, hread] at h
    cases h
    exact .inr (.inl ⟨rfl, rfl⟩)
  | cons c t =>
    rw [List.cons_append] at h
    rcases kind f c with ⟨fault, hc⟩ | ⟨a', hc⟩ | ⟨width, hwidth, hc⟩ | ⟨negated, hc⟩ | ⟨-, hc⟩
    all_goals rw [hc] at h ⊢
    · cases h
    · cases h
      exact .inl ⟨t, rfl, rfl⟩
    · exact .inl (hexEscape_dollar hwidth h)
    · exact .inl (propertyEscape_dollar h)
    · exact (boundaryEscape_dollar h).imp_right .inr

/-! Brackets. What is read up to the end of the text is not closed. -/

/-- Whether a text ends before a bracket can be closed. -/
def IsShort (r : List Char) : Prop := r = [] ∨ r = ['$']

theorem bracketAtom_dollar {a : Atom} (h : bracketAtom f (s ++ ['$']) = .ok (a, r)) :
    Spares (bracketAtom f s) a r ∨ r = [] ∨ ∃ l t, a = .look l ∧ r = '\x7b' :: t := by
  cases s with
  | nil =>
    have hread : bracketAtom f ['$'] = .ok (.char '$' false, []) := rfl
    rw [List.nil_append, hread] at h
    cases h
    exact .inr (.inl rfl)
  | cons c t =>
    by_cases hc : c = '\\'
    · subst hc
      rcases escape_dollar (s := t) h with h | ⟨-, rfl⟩ | ⟨l, t', rfl, rfl, -⟩
      · exact .inl h
      · exact .inr (.inl rfl)
      · exact .inr (.inr ⟨l, t', rfl, rfl⟩)
    · have hread : ∀ u, bracketAtom f (c :: u) = .ok (.char c false, u) := by
        intro u
        simp [bracketAtom]
      rw [List.cons_append, hread] at h
      cases h
      exact .inl ⟨t, rfl, hread t⟩

theorem IsShort.skip (h : IsShort r) : IsShort (skip f r) := by
  rcases h with rfl | rfl
  · exact .inl (skip_nil f)
  · exact .inr (by unfold Reader.skip; split <;> rfl)

theorem skip_brace (f : Flags) (t : List Char) : skip f ('\x7b' :: t) = '\x7b' :: t := by
  unfold skip
  split <;> rfl

theorem bracketRange_dollar {first : Atom} {set : CharSet}
    (h : bracketRange f first (s ++ ['$']) = .ok (set, r)) :
    Spares (bracketRange f first s) set r ∨ IsShort r := by
  unfold bracketRange at h ⊢
  rcases skip_dollar f s with hs | ⟨-, hs⟩
  · rw [hs] at h
    cases ht : skip f s with
    | nil =>
      have hread : bracketAtom f ['$'] = .ok (.char '$' false, []) := rfl
      simp only [ht, List.nil_append] at h
      obtain ⟨⟨last, rest⟩, hlast, h⟩ := bind_eq_ok_iff.1 h
      cases hread.symm.trans hlast
      obtain ⟨lo, -, h⟩ := bind_eq_ok_iff.1 h
      obtain ⟨hi, -, h⟩ := bind_eq_ok_iff.1 h
      split at h
      · cases h
        exact .inr (.inl rfl)
      · cases h
    | cons c t =>
      rw [ht, List.cons_append] at h
      split at h
      · rename_i heq
        cases heq
        obtain ⟨set', hset, h⟩ := bind_eq_ok_iff.1 h
        cases h
        exact .inl ⟨'-' :: s, rfl, by simp [hset, bind, Except.bind]⟩
      · rename_i heq
        cases heq
        obtain ⟨set', hset, h⟩ := bind_eq_ok_iff.1 h
        cases h
        exact .inl ⟨'-' :: s, rfl, by simp [hset, bind, Except.bind]⟩
      · cases h
      · rename_i hbracket hhyphen _
        have hc : c ≠ ']' := fun hc => hbracket (t ++ ['$']) (by rw [hc])
        have hc' : c ≠ '-' := fun hc => hhyphen (t ++ ['$']) (by rw [hc])
        obtain ⟨⟨last, rest⟩, hlast, h⟩ := bind_eq_ok_iff.1 h
        obtain ⟨lo, hlo, h⟩ := bind_eq_ok_iff.1 h
        obtain ⟨hi, hhi, h⟩ := bind_eq_ok_iff.1 h
        split at h
        · rename_i hle
          cases h
          rw [← List.cons_append] at hlast
          rcases bracketAtom_dollar hlast with ⟨t', rfl, hlast'⟩ | rfl | ⟨l, t', rfl, rfl⟩
          · exact .inl ⟨t', rfl, by simp [hc, hc', hlast', hlo, hhi, hle, bind, Except.bind]⟩
          · exact .inr (.inl rfl)
          · cases hhi
        · cases h
  · rw [hs] at h
    cases h

theorem bracketItem_dollar {set : CharSet} (h : bracketItem f (s ++ ['$']) = .ok (set, r)) :
    Spares (bracketItem f s) set r ∨ IsShort r := by
  obtain ⟨⟨first, t⟩, hfirst, h⟩ := bind_eq_ok_iff.1 h
  simp only at h
  rcases bracketAtom_dollar hfirst with ⟨t', rfl, hfirst'⟩ | rfl | ⟨l, t', rfl, rfl⟩
  · rcases skip_dollar f t' with hs | ⟨-, hs⟩
    · rw [hs] at h
      cases hu : skip f t' with
      | nil =>
        simp only [hu, List.nil_append] at h
        obtain ⟨set', hset, h⟩ := bind_eq_ok_iff.1 h
        cases h
        exact .inr (.inr rfl)
      | cons d u =>
        by_cases hd : d = '-'
        · subst hd
          simp only [hu, List.cons_append] at h
          refine (bracketRange_dollar h).imp_left fun ⟨u', hr, hrange⟩ => ⟨u', hr, ?_⟩
          exact bind_eq_ok_iff.2 ⟨(first, t'), hfirst', by simp only [hu, hrange]⟩
        · simp [hu, hd] at h
          obtain ⟨set', hset, h⟩ := bind_eq_ok_iff.1 h
          cases h
          refine .inl ⟨d :: u, rfl, bind_eq_ok_iff.2 ⟨(first, t'), hfirst', ?_⟩⟩
          simp [hu, hd, hset, bind, Except.bind]
    · simp only [hs] at h
      cases h
  · simp only [skip_nil] at h
    cases h
  · simp only [skip_brace] at h
    obtain ⟨set', hset, -⟩ := bind_eq_ok_iff.1 h
    cases hset

/-- Whether a class is one does not depend on the dollar sign. -/
theorem asciiName?_dollar (negated : Bool) (s : List Char) :
    asciiName? negated (s ++ ['$']) =
      (asciiName? negated s).map fun v => (v.1, v.2.1, v.2.2 ++ ['$']) := by
  unfold asciiName?
  cases hdrop : (s ++ ['$']).dropWhile (· ≠ ':') with
  | nil =>
    have hs : s.dropWhile (· ≠ ':') = [] := by
      rw [List.dropWhile_append] at hdrop
      split at hdrop
      · rename_i hempty
        exact List.isEmpty_iff.1 hempty
      · simp at hdrop
    simp only [hs]
    rfl
  | cons c t =>
    obtain ⟨t', rfl, hs, htake⟩ := exists_of_dropWhile_dollar (by decide) hdrop
    rw [hs, htake]
    cases t' with
    | nil => by_cases hc : c = ':' <;> simp [hc]
    | cons d u =>
      by_cases hc : c = ':'
      · by_cases hd : d = ']'
        · simp only [hc, hd, List.cons_append, Option.map_map]
          rfl
        · simp [hc, hd]
      · simp [hc]

theorem asciiClass?_dollar (s : List Char) :
    asciiClass? (s ++ ['$']) =
      (asciiClass? s).map fun v => (v.1, v.2.1, v.2.2 ++ ['$']) := by
  cases s with
  | nil => rfl
  | cons c t =>
    by_cases hc : c = ':'
    · subst hc
      cases t with
      | nil => rfl
      | cons d u =>
        by_cases hd : d = '^'
        · subst hd
          exact asciiName?_dollar true u
        · have hread : ∀ w, asciiClass? (':' :: d :: w) = asciiName? false (d :: w) := by
            intro w
            simp [asciiClass?, hd]
          rw [List.cons_append, List.cons_append, hread, hread]
          exact asciiName?_dollar false (d :: u)
    · have hread : ∀ w, asciiClass? (c :: w) = none := by
        intro w
        simp [asciiClass?, hc]
      rw [List.cons_append, hread, hread]
      rfl

theorem bracketStart_dollar {b : Bracket} (h : bracketStart f (s ++ ['$']) = .ok (b, r)) :
    Spares (bracketStart f s) b r ∨ IsShort r := by
  unfold bracketStart at h ⊢
  rw [dropWhile_dollar (by decide), takeWhile_dollar (by decide)] at h
  rcases skip_dollar f (s.dropWhile (· = '-')) with hs | ⟨-, hs⟩
  · rw [hs] at h
    cases ht : skip f (s.dropWhile (· = '-')) with
    | nil =>
      simp only [ht, List.nil_append] at h
      cases h
      exact .inr (.inr rfl)
    | cons c t =>
      refine .inl ?_
      by_cases hc : c = ']'
      · subst hc
        simp only [ht, List.cons_append] at h ⊢
        split at h
        · rename_i hempty
          cases h
          exact ⟨t, rfl, by simp only [if_pos hempty]⟩
        · rename_i hempty
          cases h
          exact ⟨']' :: t, rfl, by simp only [if_neg hempty]⟩
      · simp [ht, hc] at h
        exact ⟨c :: t, h.2.symm, by simp [hc, h.1]⟩
  · simp only [hs] at h
    cases h

theorem bracketStart_nil (f : Flags) : bracketStart f [] = .error .classUnclosed := by
  simp [bracketStart, skip_nil]

theorem bracketLead_of_ne (h : ∀ t, skip f s ≠ '^' :: t) :
    bracketLead f s = (bracketStart f (skip f s)).map (false, ·) := by
  unfold bracketLead
  split
  · exact absurd ‹_› (h _)
  · rfl

theorem bracketLead_dollar {negated : Bool} {b : Bracket}
    (h : bracketLead f (s ++ ['$']) = .ok (negated, b, r)) :
    (∃ r', r = r' ++ ['$'] ∧ bracketLead f s = .ok (negated, b, r')) ∨ IsShort r := by
  rcases skip_dollar f s with hs | ⟨-, hs⟩
  · by_cases hcaret : ∃ t, skip f s = '^' :: t
    · obtain ⟨t, ht⟩ := hcaret
      unfold bracketLead at h ⊢
      simp only [hs, ht, List.cons_append] at h ⊢
      obtain ⟨start, hstart, heq⟩ := exists_of_map_ok h
      cases heq
      rcases skip_dollar f t with hs' | ⟨-, hs'⟩
      · rw [hs'] at hstart
        refine (bracketStart_dollar hstart).imp_left fun ⟨r', hr, hread⟩ => ⟨r', hr, ?_⟩
        rw [hread]
        rfl
      · rw [hs', bracketStart_nil] at hstart
        cases hstart
    · have hplain : ∀ t, skip f s ≠ '^' :: t := fun t ht => hcaret ⟨t, ht⟩
      have hplain' : ∀ t, skip f (s ++ ['$']) ≠ '^' :: t := by
        rw [hs]
        exact dollar_ne (by decide) hplain
      rw [bracketLead_of_ne hplain', hs] at h
      obtain ⟨start, hstart, heq⟩ := exists_of_map_ok h
      cases heq
      refine (bracketStart_dollar hstart).imp_left fun ⟨r', hr, hread⟩ => ⟨r', hr, ?_⟩
      rw [bracketLead_of_ne hplain, hread]
      rfl
  · have hplain : ∀ t, skip f (s ++ ['$']) ≠ '^' :: t := by simp [hs]
    rw [bracketLead_of_ne hplain, hs, bracketStart_nil] at h
    cases h

theorem bracketItem_short {v : CharSet × List Char} (h : IsShort s) :
    bracketItem f s ≠ .ok v := by
  intro hread
  rcases h with rfl | rfl
  · cases hread
  · obtain ⟨⟨first, r⟩, hfirst, hread⟩ := bind_eq_ok_iff.1 hread
    cases hfirst
    simp only [skip_nil] at hread
    cases hread

theorem bracketBody_short {fuel : Nat} {b : Bracket} {v : CharSet × List Char} (h : IsShort s) :
    bracketBody fuel f b s ≠ .ok v := by
  intro hread
  cases fuel with
  | zero => cases hread
  | succ fuel =>
    simp only [bracketBody] at hread
    rcases h.skip (f := f) with hs | hs
    · simp only [hs] at hread
      cases hread
    · simp only [hs] at hread
      obtain ⟨⟨set, rest⟩, hitem, -⟩ := bind_eq_ok_iff.1 hread
      exact bracketItem_short (.inr rfl) hitem

/-- Whether an item of a bracketed class is neither a class nor an operator, nor the end. -/
structure IsPlain (s : List Char) : Prop where
  nonempty : s ≠ []
  opening : ∀ r, s ≠ '[' :: r
  closing : ∀ r, s ≠ ']' :: r
  inter : ∀ r, s ≠ '&' :: '&' :: r
  diff : ∀ r, s ≠ '-' :: '-' :: r
  symmDiff : ∀ r, s ≠ '~' :: '~' :: r

theorem IsPlain.dollar (h : IsPlain s) : IsPlain (s ++ ['$']) where
  nonempty := by simp
  opening := dollar_ne (by decide) h.opening
  closing := dollar_ne (by decide) h.closing
  inter := dollar_ne_two (by decide) (by decide) h.inter
  diff := dollar_ne_two (by decide) (by decide) h.diff
  symmDiff := dollar_ne_two (by decide) (by decide) h.symmDiff

theorem bracketBody_of_isPlain {fuel : Nat} {b : Bracket} (h : IsPlain (skip f s)) :
    bracketBody (fuel + 1) f b s =
      (bracketItem f (skip f s)).bind fun v => bracketBody fuel f (b.add v.1) v.2 := by
  simp only [bracketBody]
  split
  · exact absurd ‹_› h.nonempty
  · exact absurd ‹_› (h.opening _)
  · exact absurd ‹_› (h.closing _)
  · exact absurd ‹_› (h.inter _)
  · exact absurd ‹_› (h.diff _)
  · exact absurd ‹_› (h.symmDiff _)
  · rfl

theorem bracket_dollar (fuel : Nat) :
    (∀ f s set r, bracket fuel f (s ++ ['$']) = .ok (set, r) → Spares (bracket fuel f s) set r) ∧
    ∀ f b s set r, bracketBody fuel f b (s ++ ['$']) = .ok (set, r) →
      Spares (bracketBody fuel f b s) set r := by
  induction fuel with
  | zero => simp [bracket, bracketBody]
  | succ fuel ih =>
    obtain ⟨ihbracket, ihbody⟩ := ih
    constructor
    · intro f s set r h
      simp only [bracket] at h ⊢
      obtain ⟨⟨negated, b, t⟩, hlead, h⟩ := bind_eq_ok_iff.1 h
      obtain ⟨⟨set', rest⟩, hbody, h⟩ := bind_eq_ok_iff.1 h
      obtain ⟨set'', hset, h⟩ := bind_eq_ok_iff.1 h
      cases h
      rcases bracketLead_dollar hlead with ⟨t', rfl, hlead'⟩ | hshort
      · obtain ⟨r', rfl, hbody'⟩ := ihbody _ _ _ _ _ hbody
        refine ⟨r', rfl, ?_⟩
        exact bind_eq_ok_iff.2 ⟨(negated, b, t'), hlead', bind_eq_ok_iff.2
          ⟨(set', r'), hbody', bind_eq_ok_iff.2 ⟨set, hset, rfl⟩⟩⟩
      · exact absurd hbody (bracketBody_short hshort)
    · intro f b s set r h
      rcases skip_dollar f s with hs | ⟨-, hs⟩
      · have hread := h
        simp only [bracketBody] at h ⊢
        rw [hs] at h
        split
        · rename_i ht
          simp only [ht, List.nil_append] at h
          obtain ⟨⟨set', rest⟩, hitem, -⟩ := bind_eq_ok_iff.1 h
          exact absurd hitem (bracketItem_short (.inr rfl))
        · rename_i t ht
          simp only [ht, List.cons_append, asciiClass?_dollar] at h
          cases hclass : asciiClass? t with
          | none =>
            simp only [hclass, Option.map_none] at h
            obtain ⟨⟨set', rest⟩, hnested, h⟩ := bind_eq_ok_iff.1 h
            obtain ⟨t', rfl, hnested'⟩ := ihbracket _ _ _ _ hnested
            obtain ⟨r', rfl, hbody'⟩ := ihbody _ _ _ _ _ h
            exact ⟨r', rfl, bind_eq_ok_iff.2 ⟨(set', t'), hnested', hbody'⟩⟩
          | some found =>
            obtain ⟨negated, set', rest⟩ := found
            simp only [hclass, Option.map_some] at h
            obtain ⟨set'', hset, h⟩ := bind_eq_ok_iff.1 h
            obtain ⟨r', rfl, hbody'⟩ := ihbody _ _ _ _ _ h
            exact ⟨r', rfl, bind_eq_ok_iff.2 ⟨set'', hset, hbody'⟩⟩
        · rename_i t ht
          simp only [ht, List.cons_append] at h
          cases h
          exact ⟨t, rfl, rfl⟩
        · rename_i t ht
          simp only [ht, List.cons_append] at h
          exact ihbody _ _ _ _ _ h
        · rename_i t ht
          simp only [ht, List.cons_append] at h
          exact ihbody _ _ _ _ _ h
        · rename_i t ht
          simp only [ht, List.cons_append] at h
          exact ihbody _ _ _ _ _ h
        · rename_i hnil hopening hclosing hinter hdiff hsymm
          have hplain : IsPlain (skip f s) := ⟨hnil, hopening, hclosing, hinter, hdiff, hsymm⟩
          rw [bracketBody_of_isPlain (by rw [hs]; exact hplain.dollar), hs] at hread
          obtain ⟨⟨set', rest⟩, hitem, h⟩ := bind_eq_ok_iff.1 hread
          rcases bracketItem_dollar hitem with ⟨t', rfl, hitem'⟩ | hshort
          · obtain ⟨r', rfl, hbody'⟩ := ihbody _ _ _ _ _ h
            exact ⟨r', rfl, bind_eq_ok_iff.2 ⟨(set', t'), hitem', hbody'⟩⟩
          · exact absurd h (bracketBody_short hshort)
      · simp only [bracketBody, hs] at h
        cases h

/-! Items and groups. -/

theorem primitive_dollar {p : Pattern} {c : Char}
    (h : primitive f (c :: s ++ ['$']) = .ok (p, r)) :
    Spares (primitive f (c :: s)) p r ∨ (c = '\\' ∧ s = [] ∧ r = []) ∨
      ∃ t, r = '\x7b' :: t ∧ skip f t = ['$'] := by
  rw [List.cons_append] at h
  unfold primitive at h ⊢
  split at h
  · rename_i heq
    cases heq
  · rename_i heq
    cases heq
    obtain ⟨⟨a, rest⟩, hescape, h⟩ := bind_eq_ok_iff.1 h
    obtain ⟨p', hp, h⟩ := bind_eq_ok_iff.1 h
    cases h
    rcases escape_dollar hescape with ⟨t, rfl, hescape'⟩ | ⟨rfl, rfl⟩ | ⟨l, t, -, rfl, ht⟩
    · refine .inl ⟨t, rfl, ?_⟩
      exact bind_eq_ok_iff.2 ⟨(a, t), hescape', bind_eq_ok_iff.2 ⟨p, hp, rfl⟩⟩
    · exact .inr (.inl ⟨rfl, rfl, rfl⟩)
    · exact .inr (.inr ⟨t, rfl, ht⟩)
  · rename_i heq
    cases heq
    obtain ⟨set, hset, h⟩ := bind_eq_ok_iff.1 h
    cases h
    exact .inl ⟨s, rfl, bind_eq_ok_iff.2 ⟨set, hset, rfl⟩⟩
  · rename_i heq
    cases heq
    cases h
    exact .inl ⟨s, rfl, rfl⟩
  · rename_i heq
    cases heq
    cases h
    exact .inl ⟨s, rfl, rfl⟩
  · rename_i heq
    cases heq
    obtain ⟨p', hp, h⟩ := bind_eq_ok_iff.1 h
    cases h
    exact .inl ⟨s, rfl, by simp [hp, bind, Except.bind]⟩

theorem greed_dollar (f : Flags) (s : List Char) :
    greed f (s ++ ['$']) = ((greed f s).1, (greed f s).2 ++ ['$']) := by
  cases s with
  | nil => rfl
  | cons c t => by_cases hc : c = '?' <;> simp [greed, hc]

theorem repeatLast_dollar {items items' : List Item} {least : Nat} {most : Option Nat}
    (h : repeatLast f items least most (s ++ ['$']) = .ok (items', r)) :
    Spares (repeatLast f items least most s) items' r := by
  unfold repeatLast at h ⊢
  simp only [greed_dollar] at h ⊢
  split at h
  · split at h
    · cases h
    · rename_i hp
      cases h
      exact ⟨_, rfl, by rw [if_neg hp]⟩
  · cases h

theorem count_dollar (s : List Char) :
    count (s ++ ['$']) = (count s).map fun v => (v.1, v.2 ++ ['$']) := by
  unfold count
  simp only [dropWhile_dollar (show Text.isBlank '$' = false by decide),
    dropWhile_dollar (show Char.isDigit '$' = false by decide),
    takeWhile_dollar (show Char.isDigit '$' = false by decide)]
  split
  · rfl
  · split <;> rfl

theorem count_nil : count [] = .ok (none, []) := rfl

/-- A count in front of a closing brace. -/
theorem exists_of_count_dollar {n : Option Nat} {c : Char}
    (h : count (s ++ ['$']) = .ok (n, c :: r)) (hc : c ≠ '$') :
    ∃ r', r = r' ++ ['$'] ∧ count s = .ok (n, c :: r') := by
  rw [count_dollar] at h
  obtain ⟨⟨n', t⟩, hcount, heq⟩ := exists_of_map_ok h
  cases t with
  | nil =>
    simp only [List.nil_append, Prod.mk.injEq, List.cons.injEq] at heq
    exact absurd heq.2.1.symm hc
  | cons d u =>
    cases heq
    exact ⟨u, rfl, hcount⟩

theorem lastCount_dollar {least : Nat} {most : Option Nat}
    (h : lastCount f least (s ++ ['$']) = .ok (most, r)) : Spares (lastCount f least s) most r := by
  unfold lastCount at h ⊢
  rcases skip_dollar f s with hs | ⟨-, hs⟩
  · rw [hs] at h
    by_cases hbrace : ∃ t, skip f s = '\x7d' :: t
    · obtain ⟨t, ht⟩ := hbrace
      simp only [ht, List.cons_append] at h ⊢
      cases h
      exact ⟨t, rfl, rfl⟩
    · split at h
      · rename_i rest hrest
        cases ht : skip f s with
        | nil => simp [ht] at hrest
        | cons c t =>
          rw [ht, List.cons_append] at hrest
          exact absurd ⟨t, by rw [ht, (List.cons.inj hrest).1]⟩ hbrace
      · obtain ⟨⟨last, r'⟩, hlast, h⟩ := bind_eq_ok_iff.1 h
        simp only at h
        split at h
        · rename_i m rest
          obtain ⟨rest', rfl, hlast'⟩ := exists_of_count_dollar hlast (by decide)
          split at h
          · rename_i hle
            cases h
            refine ⟨rest', rfl, ?_⟩
            split
            · exact absurd ⟨_, ‹_›⟩ hbrace
            · exact bind_eq_ok_iff.2 ⟨_, hlast', by simp only [if_pos hle]⟩
          · cases h
        · cases h
  · rw [hs] at h
    cases h

theorem counts_dollar {least : Nat} {most : Option Nat}
    (h : counts f (s ++ ['$']) = .ok (least, most, r)) :
    ∃ r', r = r' ++ ['$'] ∧ counts f s = .ok (least, most, r') := by
  unfold counts at h ⊢
  rcases skip_dollar f s with hs | ⟨-, hs⟩
  · rw [hs] at h
    obtain ⟨⟨first, t⟩, hfirst, h⟩ := bind_eq_ok_iff.1 h
    simp only at h
    split at h
    · cases h
      obtain ⟨r', rfl, hfirst'⟩ := exists_of_count_dollar hfirst (by decide)
      exact ⟨r', rfl, bind_eq_ok_iff.2 ⟨_, hfirst', rfl⟩⟩
    · obtain ⟨⟨most', rest⟩, hlast, h⟩ := bind_eq_ok_iff.1 h
      cases h
      obtain ⟨r', rfl, hfirst'⟩ := exists_of_count_dollar hfirst (by decide)
      obtain ⟨r'', rfl, hlast'⟩ := lastCount_dollar hlast
      exact ⟨r'', rfl, bind_eq_ok_iff.2 ⟨_, hfirst', bind_eq_ok_iff.2 ⟨_, hlast', rfl⟩⟩⟩
    · cases h
  · rw [hs, count_nil] at h
    cases h

theorem groupName_dollar {names : Names} {name : String}
    (h : groupName names (s ++ ['$']) = .ok (name, r)) : Spares (groupName names s) name r := by
  unfold groupName at h ⊢
  cases hdrop : (s ++ ['$']).dropWhile (· ≠ '>') with
  | nil =>
    simp only [hdrop] at h
    cases h
  | cons c t =>
    obtain ⟨t', rfl, hdrop', htake⟩ := exists_of_dropWhile_dollar (by decide) hdrop
    simp only [hdrop, htake, hdrop'] at h ⊢
    grind [Spares]

theorem flagList_dollar {on unset : Bool} {seen : List Char} {f' : Flags}
    (h : flagList f on seen (s ++ ['$']) = .ok (f', unset, r)) :
    ∃ r', r = r' ++ ['$'] ∧ flagList f on seen s = .ok (f', unset, r') := by
  induction s generalizing f on seen with
  | nil => simp [flagList, setFlag] at h
  | cons c t ih =>
    simp only [List.cons_append, flagList] at h ⊢
    split at h
    · rename_i hc
      split at h
      · cases h
      · rename_i hseen
        cases h
        exact ⟨c :: t, rfl, by rw [if_pos hc, if_neg hseen]⟩
    · rename_i hc
      rw [if_neg hc]
      split at h
      · rename_i hminus
        rw [if_pos hminus]
        split at h
        · rename_i hon
          rw [if_pos hon]
          exact ih h
        · cases h
      · rename_i hminus
        rw [if_neg hminus]
        split at h
        · cases h
        · rename_i hseen
          rw [if_neg hseen]
          cases hset : setFlag f on c with
          | none => simp [hset] at h
          | some f'' =>
            simp only [hset] at h
            exact ih h

theorem flagsOpening_dollar {unset : Bool} {o : Opening}
    (h : flagsOpening f unset (s ++ ['$']) = .ok (o, r)) :
    Spares (flagsOpening f unset s) o r ∨ r = [] ∧ ∀ f', o ≠ .set f' := by
  cases s with
  | nil =>
    cases h
    exact .inr ⟨rfl, by simp⟩
  | cons c t =>
    by_cases hc : c = ')'
    · subst hc
      simp only [List.cons_append, flagsOpening] at h ⊢
      split at h
      · cases h
      · rename_i hunset
        cases h
        exact .inl ⟨t, rfl, by rw [if_neg hunset]⟩
    · simp only [List.cons_append] at h
      simp [flagsOpening] at h
      exact .inl ⟨t, h.2.symm, by simp [flagsOpening, h.1]⟩

/-- Whether the flags of a group follow. -/
structure IsFlagged (u : List Char) : Prop where
  nonempty : u ≠ []
  ahead : ∀ r, u ≠ '=' :: r
  notAhead : ∀ r, u ≠ '!' :: r
  named : ∀ r, u ≠ '<' :: r
  namedP : ∀ r, u ≠ 'P' :: '<' :: r

theorem opening_of_isFlagged {names : Names} {u : List Char} (hs : skip f s = '?' :: u)
    (hu : IsFlagged u) :
    opening f names s = (flagList f true [] u).bind fun v => flagsOpening v.1 v.2.1 v.2.2 := by
  have hne : ∀ {w}, skip f s = '?' :: w → u = w := fun hw => (List.cons.inj (hs.symm.trans hw)).2
  unfold opening
  split
  · exact absurd (hne ‹_›) (hu.ahead _)
  · exact absurd (hne ‹_›) (hu.notAhead _)
  · exact absurd (hne ‹_›) (hu.named _)
  · exact absurd (hne ‹_›) (hu.named _)
  · exact absurd (hne ‹_›) (hu.namedP _)
  · exact absurd (hne ‹_›) (hu.named _)
  · exact absurd (hne ‹_›) hu.nonempty
  · obtain rfl := hne ‹_›
    rfl
  · rename_i hplain
    exact absurd hs (hplain u)

theorem opening_of_ne {names : Names} (h : ∀ u, skip f s ≠ '?' :: u) :
    opening f names s = .ok (.group none, skip f s) := by
  unfold opening
  split
  all_goals first | rfl | exact absurd ‹_› (h _)

theorem opening_of_name {names : Names} {u : List Char}
    (hs : skip f s = '?' :: '<' :: u) (hahead : ∀ r, u ≠ '=' :: r) (hnot : ∀ r, u ≠ '!' :: r) :
    opening f names s = (groupName names u).bind fun v => .ok (.group (some v.1), v.2) := by
  have hne : ∀ {w}, skip f s = '?' :: '<' :: w → u = w :=
    fun hw => (List.cons.inj (List.cons.inj (hs.symm.trans hw)).2).2
  unfold opening
  split
  · simp [hs] at *
  · simp [hs] at *
  · exact absurd (hne ‹_›) (hahead _)
  · exact absurd (hne ‹_›) (hnot _)
  · simp [hs] at *
  · obtain rfl := hne ‹_›
    rfl
  · simp [hs] at *
  · simp_all
  · simp_all

theorem opening_of_nameP {names : Names} {u : List Char} (hs : skip f s = '?' :: 'P' :: '<' :: u) :
    opening f names s = (groupName names u).bind fun v => .ok (.group (some v.1), v.2) := by
  unfold opening
  simp only [hs]
  rfl

theorem IsFlagged.dollar {u : List Char} (h : u = [] ∨ IsFlagged u) : IsFlagged (u ++ ['$']) := by
  rcases h with rfl | h
  · constructor <;> simp
  · exact ⟨by simp, dollar_ne (by decide) h.ahead, dollar_ne (by decide) h.notAhead,
      dollar_ne (by decide) h.named, dollar_ne_two (by decide) (by decide) h.namedP⟩

/-- What may follow the question mark that opens a group. -/
theorem isFlagged_or (u : List Char) : (u = [] ∨ IsFlagged u) ∨ (∃ r, u = '=' :: r) ∨
    (∃ r, u = '!' :: r) ∨ (∃ r, u = '<' :: r) ∨ ∃ r, u = 'P' :: '<' :: r := by
  by_cases hnil : u = []
  · exact .inl (.inl hnil)
  by_cases hahead : ∃ r, u = '=' :: r
  · exact .inr (.inl hahead)
  by_cases hnot : ∃ r, u = '!' :: r
  · exact .inr (.inr (.inl hnot))
  by_cases hnamed : ∃ r, u = '<' :: r
  · exact .inr (.inr (.inr (.inl hnamed)))
  by_cases hnamedP : ∃ r, u = 'P' :: '<' :: r
  · exact .inr (.inr (.inr (.inr hnamedP)))
  · exact .inl (.inr ⟨hnil, fun r h => hahead ⟨r, h⟩, fun r h => hnot ⟨r, h⟩,
      fun r h => hnamed ⟨r, h⟩, fun r h => hnamedP ⟨r, h⟩⟩)

/-- A named group behind its opening angle bracket. -/
theorem name_dollar {names : Names} {o : Opening} {u : List Char}
    (h : ((groupName names (u ++ ['$'])).bind fun v => .ok (.group (some v.1), v.2)) = .ok (o, r)) :
    Spares ((groupName names u).bind fun v => .ok (.group (some v.1), v.2)) o r := by
  obtain ⟨⟨name, rest⟩, hname, h⟩ := bind_eq_ok_iff.1 h
  obtain ⟨rest', rfl, hname'⟩ := groupName_dollar hname
  cases h
  exact ⟨rest', rfl, bind_eq_ok_iff.2 ⟨_, hname', rfl⟩⟩

theorem opening_dollar {names : Names} {o : Opening}
    (h : opening f names (s ++ ['$']) = .ok (o, r)) :
    Spares (opening f names s) o r ∨ r = [] ∧ ∀ f', o ≠ .set f' := by
  rcases skip_dollar f s with hs | ⟨-, hs⟩
  · by_cases hquestion : ∃ u, skip f s = '?' :: u
    · obtain ⟨u, hu⟩ := hquestion
      rw [hu, List.cons_append] at hs
      rcases isFlagged_or u with hflagged | ⟨t, rfl⟩ | ⟨t, rfl⟩ | ⟨t, rfl⟩ | ⟨t, rfl⟩
      · rw [opening_of_isFlagged hs (.dollar hflagged)] at h
        obtain ⟨⟨f', unset, rest⟩, hflags, h⟩ := bind_eq_ok_iff.1 h
        obtain ⟨rest', rfl, hflags'⟩ := flagList_dollar hflags
        rcases hflagged with rfl | hflagged
        · cases hflags'
        · refine (flagsOpening_dollar h).imp_left fun ⟨r', hr, hread⟩ => ⟨r', hr, ?_⟩
          rw [opening_of_isFlagged hu hflagged]
          exact bind_eq_ok_iff.2 ⟨_, hflags', hread⟩
      · simp [opening, hs] at h
      · simp [opening, hs] at h
      · by_cases hahead : ∃ r, t = '=' :: r
        · obtain ⟨t', rfl⟩ := hahead
          simp [opening, hs] at h
        by_cases hnot : ∃ r, t = '!' :: r
        · obtain ⟨t', rfl⟩ := hnot
          simp [opening, hs] at h
        have hahead' : ∀ r, t ≠ '=' :: r := fun r hr => hahead ⟨r, hr⟩
        have hnot' : ∀ r, t ≠ '!' :: r := fun r hr => hnot ⟨r, hr⟩
        rw [opening_of_name hs (dollar_ne (by decide) hahead') (dollar_ne (by decide) hnot')] at h
        rw [opening_of_name hu hahead' hnot']
        exact .inl (name_dollar h)
      · rw [opening_of_nameP hs] at h
        rw [opening_of_nameP hu]
        exact .inl (name_dollar h)
    · have hplain : ∀ u, skip f s ≠ '?' :: u := fun u hu => hquestion ⟨u, hu⟩
      rw [opening_of_ne (by rw [hs]; exact dollar_ne (by decide) hplain), hs] at h
      cases h
      exact .inl ⟨skip f s, rfl, opening_of_ne hplain⟩
  · rw [opening_of_ne (by simp [hs]), hs] at h
    cases h
    exact .inr ⟨rfl, by simp⟩

end Harvest.Regex.Reader
