import Harvest.Proofs.Regex.Outline
import Harvest.Regex.Basic
/-!
The names of groups. No two groups of an expression have the same name, so that a name leads to one
group of a match.
-/

namespace Harvest.Regex

namespace Reader

/-- Whether no two groups have the same name. -/
def Names.AreDistinct (names : Names) : Prop := (names.filterMap id).Nodup

variable {f : Flags} {names : Names} {s r : List Char}

theorem Names.AreDistinct.none (h : names.AreDistinct) : Names.AreDistinct (none :: names) := h

theorem Names.AreDistinct.some {name : String} (h : names.AreDistinct)
    (hname : some name ∉ names) : Names.AreDistinct (some name :: names) := by
  refine List.nodup_cons.2 ⟨fun hmem => hname ?_, h⟩
  obtain ⟨n, hn, rfl⟩ := List.mem_filterMap.1 hmem
  exact hn

theorem not_mem_of_groupName {name : String} (h : groupName names s = .ok (name, r)) :
    some name ∉ names := by
  unfold groupName at h
  split at h
  · cases h
  · dsimp only at h
    split at h
    · cases h
    · split at h
      · cases h
      · rename_i hfree
        cases h
        simpa using hfree

theorem flagsOpening_ne_group {unset : Bool} {name : Option String} :
    flagsOpening f unset s ≠ .ok (.group name, r) := by
  unfold flagsOpening
  split
  · split <;> simp
  · simp
  · simp

theorem areDistinct_of_opening {name : Option String}
    (h : opening f names s = .ok (.group name, r)) (hnames : names.AreDistinct) :
    Names.AreDistinct (name :: names) := by
  unfold opening at h
  split at h
  · cases h
  · cases h
  · cases h
  · cases h
  · obtain ⟨⟨n, rest⟩, hname, h⟩ := bind_eq_ok_iff.1 h
    cases h
    exact hnames.some (not_mem_of_groupName hname)
  · obtain ⟨⟨n, rest⟩, hname, h⟩ := bind_eq_ok_iff.1 h
    cases h
    exact hnames.some (not_mem_of_groupName hname)
  · cases h
  · obtain ⟨⟨f', unset, rest⟩, -, h⟩ := bind_eq_ok_iff.1 h
    exact absurd h flagsOpening_ne_group
  · cases h
    exact hnames.none

namespace Reading

variable {fuel : Nat} {st st' : Reading}

theorem names_of_repeated {least : Nat} {most : Option Nat}
    (h : st.repeated least most s = .ok st') : st'.names = st.names := by
  obtain ⟨⟨items, rest⟩, -, h⟩ := bind_eq_ok_iff.1 h
  cases h
  rfl

theorem names_of_enclose {wrap : Pattern → Pattern} {inner : Parsed}
    (h : st.enclose wrap inner = .ok st') : st'.names = inner.names := by
  unfold enclose at h
  split at h
  · cases h
    rfl
  · cases h

/-- What reads the groups inside of a group keeps the names distinct. -/
def KeepsDistinct (fuel : Nat) : Prop :=
  ∀ st inner, read fuel st = .ok inner → st.names.AreDistinct → inner.names.AreDistinct

theorem areDistinct_of_group (hfuel : KeepsDistinct fuel) (h : st.group fuel s = .ok st')
    (hnames : st.names.AreDistinct) : st'.names.AreDistinct := by
  obtain ⟨⟨o, rest⟩, hopening, h⟩ := bind_eq_ok_iff.1 h
  cases o with
  | set f' =>
    cases h
    exact hnames
  | plain f' =>
    obtain ⟨inner, hinner, h⟩ := bind_eq_ok_iff.1 h
    rw [names_of_enclose h]
    exact hfuel ⟨f', st.names, [], [], rest⟩ inner hinner hnames
  | group name =>
    obtain ⟨inner, hinner, h⟩ := bind_eq_ok_iff.1 h
    rw [names_of_enclose h]
    exact hfuel ⟨st.flags, name :: st.names, [], [], rest⟩ inner hinner
      (areDistinct_of_opening hopening hnames)

theorem areDistinct_of_advance (hfuel : KeepsDistinct fuel) (h : st.advance fuel s = .ok st')
    (hnames : st.names.AreDistinct) : st'.names.AreDistinct := by
  unfold advance at h
  split at h
  · cases h
    exact hnames
  · exact areDistinct_of_group hfuel h hnames
  · obtain ⟨⟨set, rest⟩, -, h⟩ := bind_eq_ok_iff.1 h
    cases h
    exact hnames
  · exact names_of_repeated h ▸ hnames
  · exact names_of_repeated h ▸ hnames
  · exact names_of_repeated h ▸ hnames
  · split at h
    · cases h
    · obtain ⟨⟨least, most, rest⟩, -, h⟩ := bind_eq_ok_iff.1 h
      exact names_of_repeated h ▸ hnames
  · obtain ⟨⟨p, rest⟩, -, h⟩ := bind_eq_ok_iff.1 h
    cases h
    exact hnames

theorem areDistinct_of_settle (h : settle fuel st = .ok st') (hnames : st.names.AreDistinct) :
    st'.names.AreDistinct := by
  induction fuel generalizing st st' with
  | zero => cases h
  | succ fuel ih =>
    by_cases hin : IsInside (skip st.flags st.text)
    · rw [settle_of_isInside hin] at h
      obtain ⟨next, hnext, hrest⟩ := bind_eq_ok_iff.1 h
      -- groups inside of groups are read with less fuel, by the same loop
      refine ih hrest (areDistinct_of_advance (fun st inner hread hnames => ?_) hnext hnames)
      obtain ⟨last, hlast, rfl⟩ := read_eq_ok_iff.1 hread
      exact ih hlast hnames
    · rw [settle_of_not_isInside hin] at h
      cases h
      exact hnames

end Reading
end Reader

/-- The names of the groups of an expression, in order. -/
def groupNames (r : Regex) : List String := r.names.filterMap id

/-- Names of groups that are not left in the pattern are dropped. -/
theorem sublist_filterMap_zipIdx (keep : Nat → Bool) (names : List (Option String)) (n : Nat) :
    (((names.zipIdx n).map fun e => if keep e.2 then e.1 else none).filterMap id).Sublist
      (names.filterMap id) := by
  induction names generalizing n with
  | nil => exact .slnil
  | cons name rest ih =>
    cases name with
    | none => simpa using ih (n + 1)
    | some text =>
      cases h : keep n with
      | true => simpa [h] using ih (n + 1)
      | false => simpa [h] using (ih (n + 1)).cons text

theorem nodup_groupNames {source : String} {r : Regex} (h : compile source = .ok r) :
    r.groupNames.Nodup := by
  obtain ⟨⟨p, names⟩, hparse, hr⟩ := Reader.bind_eq_ok_iff.1 h
  obtain ⟨last, hlast, -, -, -, -, rfl⟩ := Pattern.parse_eq_ok_iff.1 hparse
  cases hr
  have hnames : last.names.AreDistinct :=
    Reader.Reading.areDistinct_of_settle hlast List.nodup_nil
  have hreverse : (last.names.reverse.filterMap id).Nodup := by
    rw [List.filterMap_reverse]
    exact List.pairwise_reverse.2 (hnames.imp Ne.symm)
  exact hreverse.sublist (sublist_filterMap_zipIdx (fun i => p.hasGroup (i + 1)) _ 0)

theorem map_fst_filterMap_zipIdx (value : Nat → Option String) (names : List (Option String))
    (n : Nat) :
    ((names.zipIdx n).filterMap fun e => e.1.map fun name => (name, value e.2)).map Prod.fst =
      names.filterMap id := by
  induction names generalizing n with
  | nil => rfl
  | cons name rest ih =>
    cases name with
    | none => simpa using ih (n + 1)
    | some text => simpa using ih (n + 1)

/-- A match has each named group once. -/
theorem map_fst_namedGroups (r : Regex) (m : Match) :
    (r.namedGroups m).map Prod.fst = r.groupNames :=
  map_fst_filterMap_zipIdx (fun i => m.group? (i + 1)) r.names 0

end Harvest.Regex
