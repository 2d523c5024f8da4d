import Harvest.Proofs.Regex.Reading
/-!
Reading uses text up: no part of the reader leaves more text than it was given, and every round of
the loop that reads a group leaves less. So the fuel of the reader does not matter once it exceeds
the length of the text.
-/

namespace Harvest.Regex.Reader

open Harvest.Text (CharSet)

variable {α : Type} {f : Flags} {s r : List Char}

theorem bind_eq_ok_iff {β : Type} {x : Except Fault α} {g : α → Except Fault β} {b : β} :
    x >>= g = .ok b ↔ ∃ a, x = .ok a ∧ g a = .ok b := by
  cases x with
  | error fault => simp [bind, Except.bind]
  | ok a => simp [bind, Except.bind]

theorem exists_of_map_ok {β : Type} {x : Except Fault α} {g : α → β} {b : β}
    (h : x.map g = .ok b) : ∃ a, x = .ok a ∧ g a = b := by
  cases x with
  | error fault => cases h
  | ok a => exact ⟨a, rfl, Except.ok.inj h⟩

theorem length_skipBlanks_le (comment : Bool) (s : List Char) :
    (skipBlanks comment s).length ≤ s.length := by
  induction s generalizing comment with
  | nil => simp [skipBlanks]
  | cons c r ih =>
    simp only [List.length_cons]
    cases comment with
    | true =>
      rw [skipBlanks]
      have := ih (c != '\n')
      omega
    | false =>
      have hplain := ih false
      have hcomment := ih true
      rw [skipBlanks]
      split
      · omega
      · split
        · omega
        · simp

theorem length_skip_le (f : Flags) (s : List Char) : (skip f s).length ≤ s.length := by
  unfold skip
  split
  · exact length_skipBlanks_le false s
  · exact Nat.le_refl _

theorem length_of_skip {c : Char} (h : skip f s = c :: r) : r.length < s.length := by
  have hskip := length_skip_le f s
  rw [h] at hskip
  exact hskip

theorem length_of_skip_two {c d : Char} (h : skip f s = c :: d :: r) : r.length < s.length := by
  have hskip := length_of_skip h
  simp only [List.length_cons] at hskip
  omega

theorem length_dropWhile_le (p : Char → Bool) (s : List Char) :
    (s.dropWhile p).length ≤ s.length :=
  (List.dropWhile_suffix p).length_le

theorem length_of_hexEscape {width : Nat} {a : Atom} (h : hexEscape f width s = .ok (a, r)) :
    r.length ≤ s.length := by
  have hskip := length_skip_le f s
  grind [hexEscape, length_dropWhile_le]

theorem length_of_propertyEscape {negated : Bool} {a : Atom}
    (h : propertyEscape f negated s = .ok (a, r)) : r.length ≤ s.length := by
  unfold propertyEscape at h
  split at h
  · rename_i t ht
    have hdrop := length_dropWhile_le (· ≠ '\x7d') t
    have hafter := length_of_skip ht
    split at h
    · rename_i r' hr
      rw [hr] at hdrop
      simp only [List.length_cons] at hdrop
      obtain ⟨a', -, heq⟩ := exists_of_map_ok h
      cases heq
      omega
    · cases h
  · cases h
  · rename_i ht
    have hafter := length_of_skip ht
    obtain ⟨a', -, heq⟩ := exists_of_map_ok h
    cases heq
    omega
  · cases h

theorem length_of_boundaryEscape {a : Atom} (h : boundaryEscape f s = .ok (a, r)) :
    r.length ≤ s.length := by
  unfold boundaryEscape at h
  split at h
  · rename_i t
    have hskip := length_skip_le f t
    have hdrop := length_dropWhile_le (fun c => c.isAlpha || c = '-') (skip f t)
    simp only [List.length_cons]
    grind
  · grind

/-- What an escape is known by: its first character says whether it is one, and what reads the
    text behind it. -/
inductive Kind (f : Flags) (c : Char) : Prop
  | refused (fault : Fault) (h : ∀ t, escape f (c :: t) = .error fault)
  | single (a : Atom) (h : ∀ t, escape f (c :: t) = .ok (a, t))
  | hex (width : Nat) (hwidth : 2 ≤ width) (h : ∀ t, escape f (c :: t) = hexEscape f width t)
  | property (negated : Bool) (h : ∀ t, escape f (c :: t) = propertyEscape f negated t)
  | boundary (hc : c = 'b') (h : ∀ t, escape f (c :: t) = boundaryEscape f t)

theorem kind (f : Flags) (c : Char) : Kind f c := by
  by_cases hdigit : c.isDigit = true
  · exact .refused .backreference fun t => by simp only [escape]; simp [hdigit]
  by_cases hhex : c = 'x' ∨ c = 'u' ∨ c = 'U'
  · rcases hhex with rfl | rfl | rfl
    · exact .hex 2 (by omega) fun t => rfl
    · exact .hex 4 (by omega) fun t => rfl
    · exact .hex 8 (by omega) fun t => rfl
  by_cases hproperty : c = 'p' ∨ c = 'P'
  · rcases hproperty with rfl | rfl
    · exact .property false fun t => rfl
    · exact .property true fun t => rfl
  by_cases hperl : c = 'd' ∨ c = 's' ∨ c = 'w'
  · rcases hperl with rfl | rfl | rfl <;> exact .single _ fun t => rfl
  by_cases hother : c = 'D' ∨ c = 'S' ∨ c = 'W'
  · have hread : ∀ t, escape f (c :: t) =
        (Class.negateIf f true (Class.perl f c.toLower)).bind fun s => .ok (.set s, t) := by
      intro t
      rcases hother with rfl | rfl | rfl <;> rfl
    cases hset : Class.negateIf f true (Class.perl f c.toLower) with
    | error fault => exact .refused fault fun t => by rw [hread, hset]; rfl
    | ok set => exact .single (.set set) fun t => by rw [hread, hset]; rfl
  by_cases hescapable : isEscapable c = true
  · exact .single (.char c false) fun t => by simp_all [escape]
  by_cases hb : c = 'b'
  · subst hb
    exact .boundary rfl fun t => rfl
  by_cases hletter : c ∈ ['a', 'f', 't', 'n', 'r', 'v', 'A', 'z', 'B', '<', '>']
  · simp only [List.mem_cons, List.not_mem_nil, or_false] at hletter
    rcases hletter with rfl | rfl | rfl | rfl | rfl | rfl | rfl | rfl | rfl | rfl | rfl <;>
      exact .single _ fun t => rfl
  · refine .refused .escape fun t => ?_
    simp only [List.mem_cons, List.not_mem_nil, or_false, not_or] at hletter
    simp_all [escape]

theorem length_of_escape {a : Atom} (h : escape f s = .ok (a, r)) : r.length < s.length := by
  cases s with
  | nil => simp [escape] at h
  | cons c t =>
    rw [List.length_cons, Nat.lt_succ_iff]
    rcases kind f c with ⟨fault, hc⟩ | ⟨a', hc⟩ | ⟨width, -, hc⟩ | ⟨negated, hc⟩ | ⟨-, hc⟩
    all_goals rw [hc] at h
    · cases h
    · cases h
      exact Nat.le_refl _
    · exact length_of_hexEscape h
    · exact length_of_propertyEscape h
    · exact length_of_boundaryEscape h

theorem length_of_bracketAtom {a : Atom} (h : bracketAtom f s = .ok (a, r)) :
    r.length < s.length := by
  unfold bracketAtom at h
  split at h
  · cases h
  · have := length_of_escape h
    simp only [List.length_cons]
    omega
  · cases h
    simp

theorem length_of_bracketRange {first : Atom} {set : CharSet}
    (h : bracketRange f first s = .ok (set, r)) : r.length ≤ s.length + 1 := by
  have hskip := length_skip_le f s
  unfold bracketRange at h
  split at h
  · obtain ⟨set', -, h⟩ := bind_eq_ok_iff.1 h
    cases h
    exact Nat.le_refl _
  · obtain ⟨set', -, h⟩ := bind_eq_ok_iff.1 h
    cases h
    exact Nat.le_refl _
  · cases h
  · obtain ⟨⟨last, rest⟩, hlast, h⟩ := bind_eq_ok_iff.1 h
    obtain ⟨lo, -, h⟩ := bind_eq_ok_iff.1 h
    obtain ⟨hi, -, h⟩ := bind_eq_ok_iff.1 h
    have hlen := length_of_bracketAtom hlast
    split at h
    · cases h
      omega
    · cases h

theorem length_of_bracketItem {set : CharSet} (h : bracketItem f s = .ok (set, r)) :
    r.length < s.length := by
  obtain ⟨⟨first, t⟩, hfirst, h⟩ := bind_eq_ok_iff.1 h
  have hlen := length_of_bracketAtom hfirst
  have hskip := length_skip_le f t
  simp only at h
  split at h
  · cases h
  · rename_i t' ht
    have hrange := length_of_bracketRange h
    have hafter := length_of_skip ht
    omega
  · obtain ⟨set', -, h⟩ := bind_eq_ok_iff.1 h
    cases h
    omega

theorem length_of_asciiName? {negated negated' : Bool} {set : CharSet}
    (h : asciiName? negated s = some (negated', set, r)) : r.length ≤ s.length := by
  have hdrop := length_dropWhile_le (· ≠ ':') s
  unfold asciiName? at h
  split at h
  · rename_i rest hrest
    rw [hrest] at hdrop
    simp only [List.length_cons] at hdrop
    obtain ⟨set', -, h⟩ := Option.map_eq_some_iff.1 h
    cases h
    omega
  · cases h

theorem length_of_asciiClass? {negated : Bool} {set : CharSet}
    (h : asciiClass? s = some (negated, set, r)) : r.length ≤ s.length := by
  unfold asciiClass? at h
  split at h
  · have hlen := length_of_asciiName? h
    simp only [List.length_cons]
    omega
  · have hlen := length_of_asciiName? h
    simp only [List.length_cons]
    omega
  · cases h

theorem length_of_bracketStart {b : Bracket} (h : bracketStart f s = .ok (b, r)) :
    r.length ≤ s.length := by
  have hlen : (skip f (s.dropWhile (· = '-'))).length ≤ s.length :=
    Nat.le_trans (length_skip_le f _) (length_dropWhile_le _ s)
  unfold bracketStart at h
  simp only at h
  split at h
  · cases h
  · rename_i rest hrest
    rw [hrest] at hlen
    simp only [List.length_cons] at hlen
    split at h
    · cases h
      omega
    · cases h
      simpa using hlen
  · cases h
    exact hlen

theorem length_of_bracketLead {negated : Bool} {b : Bracket}
    (h : bracketLead f s = .ok (negated, b, r)) : r.length ≤ s.length := by
  have hskip := length_skip_le f s
  unfold bracketLead at h
  split at h
  · rename_i t ht
    have hskip' := length_skip_le f t
    have hafter := length_of_skip ht
    obtain ⟨start, hstart, heq⟩ := exists_of_map_ok h
    cases heq
    have hlen := length_of_bracketStart hstart
    omega
  · obtain ⟨start, hstart, heq⟩ := exists_of_map_ok h
    cases heq
    have hlen := length_of_bracketStart hstart
    omega

theorem length_of_bracket_and_body (fuel : Nat) :
    (∀ f s set r, bracket fuel f s = .ok (set, r) → r.length < s.length) ∧
    ∀ f b s set r, bracketBody fuel f b s = .ok (set, r) → r.length < s.length := by
  induction fuel with
  | zero => simp [bracket, bracketBody]
  | succ fuel ih =>
    obtain ⟨ihbracket, ihbody⟩ := ih
    constructor
    · intro f s set r h
      simp only [bracket] at h
      obtain ⟨⟨negated, b, t⟩, hlead, h⟩ := bind_eq_ok_iff.1 h
      obtain ⟨⟨set', rest⟩, hbody, h⟩ := bind_eq_ok_iff.1 h
      obtain ⟨set'', -, h⟩ := bind_eq_ok_iff.1 h
      have := length_of_bracketLead hlead
      have := ihbody _ _ _ _ _ hbody
      cases h
      simp only at *
      omega
    · intro f b s set r h
      have hskip := length_skip_le f s
      simp only [bracketBody] at h
      split at h
      · cases h
      · rename_i t ht
        have hafter := length_of_skip ht
        split at h
        · rename_i negated set' rest hclass
          have := length_of_asciiClass? hclass
          obtain ⟨set'', -, h⟩ := bind_eq_ok_iff.1 h
          have := ihbody _ _ _ _ _ h
          omega
        · obtain ⟨⟨set', rest⟩, hnested, h⟩ := bind_eq_ok_iff.1 h
          have := ihbracket _ _ _ _ hnested
          have := ihbody _ _ _ _ _ h
          simp only at *
          omega
      · rename_i t ht
        have hafter := length_of_skip ht
        cases h
        omega
      · rename_i t ht
        have hafter := length_of_skip_two ht
        have := ihbody _ _ _ _ _ h
        omega
      · rename_i t ht
        have hafter := length_of_skip_two ht
        have := ihbody _ _ _ _ _ h
        omega
      · rename_i t ht
        have hafter := length_of_skip_two ht
        have := ihbody _ _ _ _ _ h
        omega
      · obtain ⟨⟨set', rest⟩, hitem, h⟩ := bind_eq_ok_iff.1 h
        have := length_of_bracketItem hitem
        have := ihbody _ _ _ _ _ h
        simp only at *
        omega

/-- A bracketed class is read in the same way with any fuel that exceeds what it uses up: each of
    its brackets has a closing one as well. -/
theorem bracket_of_length (fuel : Nat) :
    (∀ fuel' f s set r, bracket fuel f s = .ok (set, r) → s.length < fuel' + r.length →
      bracket fuel' f s = .ok (set, r)) ∧
    ∀ fuel' f b s set r, bracketBody fuel f b s = .ok (set, r) → s.length ≤ fuel' + r.length →
      bracketBody fuel' f b s = .ok (set, r) := by
  induction fuel with
  | zero => simp [bracket, bracketBody]
  | succ fuel ih =>
    obtain ⟨ihbracket, ihbody⟩ := ih
    constructor
    · intro fuel' f s set r h hlen
      have hless := (length_of_bracket_and_body _).1 _ _ _ _ h
      cases fuel' with
      | zero => omega
      | succ fuel' =>
        simp only [bracket] at h ⊢
        obtain ⟨⟨negated, b, t⟩, hlead, h⟩ := bind_eq_ok_iff.1 h
        obtain ⟨⟨set', rest⟩, hbody, h⟩ := bind_eq_ok_iff.1 h
        obtain ⟨set'', hset, h⟩ := bind_eq_ok_iff.1 h
        have hlead' := length_of_bracketLead hlead
        cases h
        have hfuel : t.length ≤ fuel' + rest.length := by
          simp only at hlen
          omega
        exact bind_eq_ok_iff.2 ⟨_, hlead, bind_eq_ok_iff.2
          ⟨_, ihbody fuel' _ _ _ _ _ hbody hfuel, bind_eq_ok_iff.2 ⟨_, hset, rfl⟩⟩⟩
    · intro fuel' f b s set r h hlen
      have hless := (length_of_bracket_and_body _).2 _ _ _ _ _ h
      have hskip := length_skip_le f s
      cases fuel' with
      | zero => omega
      | succ fuel' =>
        simp only [bracketBody] at h ⊢
        split at h
        · cases h
        · rename_i t ht
          have hafter := length_of_skip ht
          split at h
          · rename_i negated set' rest hclass
            have hclass' := length_of_asciiClass? hclass
            obtain ⟨set'', hset, h⟩ := bind_eq_ok_iff.1 h
            exact bind_eq_ok_iff.2 ⟨set'', hset, ihbody fuel' _ _ _ _ _ h (by omega)⟩
          · obtain ⟨⟨set', rest⟩, hnested, h⟩ := bind_eq_ok_iff.1 h
            have hnested' := (length_of_bracket_and_body _).1 _ _ _ _ hnested
            have hrest := (length_of_bracket_and_body _).2 _ _ _ _ _ h
            simp only at hrest
            exact bind_eq_ok_iff.2 ⟨_, ihbracket fuel' _ _ _ _ hnested (by omega),
              ihbody fuel' _ _ _ _ _ h (by simp only; omega)⟩
        · exact h
        · rename_i t ht
          have hafter := length_of_skip_two ht
          exact ihbody fuel' _ _ _ _ _ h (by omega)
        · rename_i t ht
          have hafter := length_of_skip_two ht
          exact ihbody fuel' _ _ _ _ _ h (by omega)
        · rename_i t ht
          have hafter := length_of_skip_two ht
          exact ihbody fuel' _ _ _ _ _ h (by omega)
        · obtain ⟨⟨set', rest⟩, hitem, h⟩ := bind_eq_ok_iff.1 h
          have hitem' := length_of_bracketItem hitem
          exact bind_eq_ok_iff.2 ⟨_, hitem, ihbody fuel' _ _ _ _ _ h (by simp only; omega)⟩

theorem length_of_primitive {p : Pattern} {c : Char} (h : primitive f (c :: s) = .ok (p, r)) :
    r.length ≤ s.length := by
  unfold primitive at h
  split at h
  · rename_i heq
    cases heq
  · rename_i heq
    cases heq
    obtain ⟨⟨a, rest⟩, hescape, h⟩ := bind_eq_ok_iff.1 h
    obtain ⟨p', -, h⟩ := bind_eq_ok_iff.1 h
    have := length_of_escape hescape
    cases h
    omega
  · rename_i heq
    cases heq
    obtain ⟨set, -, h⟩ := bind_eq_ok_iff.1 h
    cases h
    exact Nat.le_refl _
  · rename_i heq
    cases heq
    cases h
    exact Nat.le_refl _
  · rename_i heq
    cases heq
    cases h
    exact Nat.le_refl _
  · rename_i heq
    cases heq
    obtain ⟨p', -, h⟩ := bind_eq_ok_iff.1 h
    cases h
    exact Nat.le_refl _

theorem length_greed_le (f : Flags) (s : List Char) : (greed f s).2.length ≤ s.length := by
  unfold greed
  split <;> simp

theorem length_of_repeatLast {items items' : List Item} {least : Nat} {most : Option Nat}
    (h : repeatLast f items least most s = .ok (items', r)) : r.length ≤ s.length := by
  have hlen := length_greed_le f s
  unfold repeatLast at h
  simp only at h
  split at h
  · split at h
    · cases h
    · cases h
      exact hlen
  · cases h

theorem length_of_count {n : Option Nat} (h : count s = .ok (n, r)) : r.length ≤ s.length := by
  have hdrop := length_dropWhile_le
  grind [count]

theorem length_of_lastCount {least : Nat} {most : Option Nat}
    (h : lastCount f least s = .ok (most, r)) : r.length ≤ s.length := by
  have hskip := length_skip_le f s
  unfold lastCount at h
  split at h
  · rename_i rest hrest
    have hafter := length_of_skip hrest
    cases h
    omega
  · obtain ⟨⟨last, r'⟩, hlast, h⟩ := bind_eq_ok_iff.1 h
    have hlen := length_of_count hlast
    simp only at h
    split at h
    · simp only [List.length_cons] at hlen
      split at h
      · cases h
        omega
      · cases h
    · cases h

theorem length_of_counts {least : Nat} {most : Option Nat}
    (h : counts f s = .ok (least, most, r)) : r.length ≤ s.length := by
  obtain ⟨⟨first, t⟩, hfirst, h⟩ := bind_eq_ok_iff.1 h
  have hlen := Nat.le_trans (length_of_count hfirst) (length_skip_le f s)
  simp only at h
  split at h
  · simp only [List.length_cons] at hlen
    cases h
    omega
  · simp only [List.length_cons] at hlen
    obtain ⟨⟨most', rest⟩, hlast, h⟩ := bind_eq_ok_iff.1 h
    have hlen' := length_of_lastCount hlast
    cases h
    simp only
    omega
  · cases h

theorem length_of_groupName {names : Names} {name : String}
    (h : groupName names s = .ok (name, r)) : r.length ≤ s.length := by
  have hdrop := length_dropWhile_le (· ≠ '>') s
  grind [groupName]

theorem length_of_flagList {on unset : Bool} {seen : List Char} {f' : Flags}
    (h : flagList f on seen s = .ok (f', unset, r)) : r.length ≤ s.length := by
  induction s generalizing f on seen with
  | nil => simp [flagList] at h
  | cons c t ih => grind [flagList]

theorem length_of_flagsOpening {unset : Bool} {o : Opening}
    (h : flagsOpening f unset s = .ok (o, r)) : r.length ≤ s.length := by
  unfold flagsOpening at h
  split at h
  · split at h
    · cases h
    · cases h
      simp
  · cases h
    simp
  · cases h

theorem length_of_opening {names : Names} {o : Opening}
    (h : opening f names s = .ok (o, r)) : r.length ≤ s.length := by
  have hskip := length_skip_le f s
  unfold opening at h
  split at h
  · cases h
  · cases h
  · cases h
  · cases h
  · rename_i t ht
    obtain ⟨⟨name, rest⟩, hname, h⟩ := bind_eq_ok_iff.1 h
    have hlen := length_of_groupName hname
    have hafter := length_of_skip_two ht
    simp only [List.length_cons] at hafter
    cases h
    omega
  · rename_i t _ _ ht
    obtain ⟨⟨name, rest⟩, hname, h⟩ := bind_eq_ok_iff.1 h
    have hlen := length_of_groupName hname
    have hafter := length_of_skip_two ht
    cases h
    omega
  · cases h
  · rename_i t _ _ _ _ _ _ _ ht
    obtain ⟨⟨f', unset, rest⟩, hflags, h⟩ := bind_eq_ok_iff.1 h
    have hlen := length_of_flagList hflags
    have hlen' := length_of_flagsOpening h
    have hafter := length_of_skip ht
    omega
  · cases h
    exact hskip

namespace Reading

variable {fuel : Nat} {st st' : Reading}

theorem length_of_repeated {least : Nat} {most : Option Nat}
    (h : st.repeated least most s = .ok st') : st'.text.length ≤ s.length := by
  obtain ⟨⟨items, rest⟩, hlast, h⟩ := bind_eq_ok_iff.1 h
  cases h
  exact length_of_repeatLast hlast

theorem length_of_enclose {wrap : Pattern → Pattern} {inner : Parsed}
    (h : st.enclose wrap inner = .ok st') : st'.text.length < inner.rest.length := by
  unfold enclose at h
  split at h
  · rename_i rest hrest
    cases h
    simp [hrest]
  · cases h

/-- What reads the groups inside of a group leaves no more text than there is. -/
def Shortens (fuel : Nat) : Prop :=
  ∀ st inner, read fuel st = .ok inner → inner.rest.length ≤ st.text.length

theorem length_of_group (hfuel : Shortens fuel) (h : st.group fuel s = .ok st') :
    st'.text.length ≤ s.length := by
  obtain ⟨⟨o, rest⟩, hopening, h⟩ := bind_eq_ok_iff.1 h
  have hlen := length_of_opening hopening
  cases o with
  | set f' =>
    cases h
    exact hlen
  | plain f' =>
    obtain ⟨inner, hinner, h⟩ := bind_eq_ok_iff.1 h
    have hin : inner.rest.length ≤ rest.length := hfuel ⟨f', st.names, [], [], rest⟩ inner hinner
    have := length_of_enclose h
    omega
  | group name =>
    obtain ⟨inner, hinner, h⟩ := bind_eq_ok_iff.1 h
    have hin : inner.rest.length ≤ rest.length :=
      hfuel ⟨st.flags, name :: st.names, [], [], rest⟩ inner hinner
    have := length_of_enclose h
    omega

/-- A round of the loop leaves less text. -/
theorem length_of_advance (hfuel : Shortens fuel) (hs : s ≠ []) (h : st.advance fuel s = .ok st') :
    st'.text.length < s.length := by
  cases s with
  | nil => exact absurd rfl hs
  | cons c t =>
    rw [List.length_cons, Nat.lt_succ_iff]
    unfold advance at h
    split at h
    · rename_i heq
      cases heq
      cases h
      exact Nat.le_refl _
    · rename_i heq
      cases heq
      exact length_of_group hfuel h
    · rename_i heq
      cases heq
      obtain ⟨⟨set, rest⟩, hbracket, h⟩ := bind_eq_ok_iff.1 h
      cases h
      exact Nat.le_of_lt ((length_of_bracket_and_body _).1 _ _ _ _ hbracket)
    · rename_i heq
      cases heq
      exact length_of_repeated h
    · rename_i heq
      cases heq
      exact length_of_repeated h
    · rename_i heq
      cases heq
      exact length_of_repeated h
    · rename_i heq
      cases heq
      split at h
      · cases h
      · obtain ⟨⟨least, most, rest⟩, hcounts, h⟩ := bind_eq_ok_iff.1 h
        exact Nat.le_trans (length_of_repeated h) (length_of_counts hcounts)
    · obtain ⟨⟨p, rest⟩, hprimitive, h⟩ := bind_eq_ok_iff.1 h
      cases h
      exact length_of_primitive hprimitive

theorem shortens_of_settle (h : ∀ st last, settle fuel st = .ok last →
    last.text.length ≤ st.text.length) : Shortens fuel := by
  intro st inner hread
  obtain ⟨last, hlast, rfl⟩ := read_eq_ok_iff.1 hread
  exact Nat.le_trans (length_skip_le last.flags last.text) (h st last hlast)

theorem length_of_settle (h : settle fuel st = .ok st') : st'.text.length ≤ st.text.length := by
  induction fuel generalizing st st' with
  | zero => cases h
  | succ fuel ih =>
    by_cases hin : IsInside (skip st.flags st.text)
    · rw [settle_of_isInside hin] at h
      obtain ⟨next, hnext, hrest⟩ := bind_eq_ok_iff.1 h
      have hless := length_of_advance (shortens_of_settle fun _ _ => ih) hin.1 hnext
      have hlen := ih hrest
      have hskip := length_skip_le st.flags st.text
      omega
    · rw [settle_of_not_isInside hin] at h
      cases h
      exact Nat.le_refl _

theorem shortens (fuel : Nat) : Shortens fuel :=
  shortens_of_settle fun _ _ => length_of_settle

section

variable {fuel' : Nat}

theorem group_congr (hread : ∀ st, st.text.length ≤ s.length → read fuel st = read fuel' st) :
    st.group fuel s = st.group fuel' s := by
  unfold group
  cases hopening : opening st.flags st.names s with
  | error fault => rfl
  | ok opened =>
    obtain ⟨o, rest⟩ := opened
    have hlen := length_of_opening hopening
    cases o with
    | set f' => rfl
    | plain f' =>
      have hinner : body fuel f' st.names [] [] rest = body fuel' f' st.names [] [] rest :=
        hread ⟨f', st.names, [], [], rest⟩ hlen
      simp only [bind, Except.bind, hinner]
    | group name =>
      have hinner : body fuel st.flags (name :: st.names) [] [] rest =
          body fuel' st.flags (name :: st.names) [] [] rest :=
        hread ⟨st.flags, name :: st.names, [], [], rest⟩ hlen
      simp only [bind, Except.bind, hinner]

theorem advance_congr (hread : ∀ st, st.text.length < s.length → read fuel st = read fuel' st) :
    st.advance fuel s = st.advance fuel' s := by
  unfold advance
  split
  · rfl
  · refine group_congr fun st hlen => hread st ?_
    simp only [List.length_cons]
    omega
  all_goals rfl

/-- Reading goes the same way with any fuel that exceeds the length of the text. -/
theorem settle_congr (hfuel : st.text.length < fuel) (hfuel' : st.text.length < fuel') :
    settle fuel st = settle fuel' st := by
  induction fuel generalizing st fuel' with
  | zero => omega
  | succ fuel ih =>
    cases fuel' with
    | zero => omega
    | succ fuel' =>
      by_cases hin : IsInside (skip st.flags st.text)
      · have hskip := length_skip_le st.flags st.text
        have hread : ∀ st₀ : Reading, st₀.text.length < (skip st.flags st.text).length →
            read fuel st₀ = read fuel' st₀ := by
          intro st₀ hlen
          have hsame : settle fuel st₀ = settle fuel' st₀ := ih (by omega) (by omega)
          rw [read_eq_settle, read_eq_settle, hsame]
        rw [settle_of_isInside hin, settle_of_isInside hin, advance_congr hread]
        cases hnext : st.advance fuel' (skip st.flags st.text) with
        | error fault => rfl
        | ok next =>
          have hless := length_of_advance (shortens fuel') hin.1 hnext
          exact ih (by omega) (by omega)
      · rw [settle_of_not_isInside hin, settle_of_not_isInside hin]

end

end Reading
end Harvest.Regex.Reader
