import Harvest.Proofs.Regex.Outline
/-!
What single items of an expression are read as where no flags are set: a character, a repetition, a
group. Reading takes as much fuel as the text is long, so that the fuel is left out here.
-/

namespace Harvest.Regex

namespace Reader

open Harvest.Text (CharSet)

/-- What follows a repetition that is to be greedy. -/
def NotLazy (s : List Char) : Prop := ∀ t, s ≠ '?' :: t

/-- The characters that are no items of their own or stand for something else. -/
def special : List Char := ')' :: '\\' :: '.' :: '^' :: '$' :: Reading.operators

namespace Reading

variable {st st' last : Reading} {names : Names} {branches : List (Pattern × Nat)}
  {items : List Item} {s rest : List Char} {fault : Fault}

/-- A group as it is read to its end. -/
def settled (st : Reading) : Except Fault Reading := settle (st.text.length + 1) st

theorem settle_eq_settled {fuel : Nat} (h : st.text.length < fuel) : settle fuel st = st.settled :=
  settle_congr h (Nat.lt_succ_self _)

theorem settled_eq (hflags : st.flags = Flags.initial) (hin : IsInside st.text) :
    st.settled = (st.advance st.text.length st.text).bind settled := by
  have hskip : skip st.flags st.text = st.text := by rw [hflags, Pattern.skip_initial]
  rw [settled, settle_of_isInside (hskip.symm ▸ hin), hskip]
  cases hnext : st.advance st.text.length st.text with
  | error fault => rfl
  | ok next => exact settle_eq_settled (length_of_advance (shortens _) hin.1 hnext)

theorem settled_of_not_isInside (hflags : st.flags = Flags.initial) (h : ¬ IsInside st.text) :
    st.settled = .ok st :=
  settle_of_not_isInside (by rwa [hflags, Pattern.skip_initial])

theorem isInside_cons {c : Char} (hc : c ≠ ')') : IsInside (c :: s) := by
  refine ⟨List.cons_ne_nil c s, ?_⟩
  rintro t ⟨⟩
  exact hc rfl

/-! Characters -/

theorem primitive_char {c : Char} (hc : c ∉ special) :
    primitive Flags.initial (c :: s) = .ok (.char (.single c), s) := by
  simp only [special, List.mem_cons, not_or] at hc
  unfold primitive
  split
  · simp_all
  · simp_all
  · simp_all
  · simp_all
  · simp_all
  · rename_i heq
    cases heq
    rfl

theorem settled_char {c : Char} (hc : c ∉ special) :
    settled ⟨Flags.initial, names, branches, items, c :: s⟩ =
      settled ⟨Flags.initial, names, branches, .node (.char (.single c)) 0 :: items, s⟩ := by
  have hclose : c ≠ ')' := by
    rintro rfl
    simp [special] at hc
  have hoperators : c ∉ operators := by
    intro hmem
    simp [special, hmem] at hc
  rw [settled_eq rfl (isInside_cons hclose), advance_of_not_mem hoperators, primitive_char hc]
  rfl

/-! Repetitions -/

theorem repeated_node {p : Pattern} {d least : Nat} {most : Option Nat} (hp : p ≠ .empty)
    (hs : NotLazy s) :
    Reading.repeated ⟨Flags.initial, names, branches, .node p d :: items, rest⟩ least most s =
      .ok ⟨Flags.initial, names, branches,
        .node (Reader.repeated p least most true) (d + 1) :: items, s⟩ := by
  have hgreed : greed Flags.initial s = (true, s) := by
    unfold greed
    split
    · exact absurd rfl (hs _)
    · rfl
  simp [Reading.repeated, repeatLast, hgreed, hp, bind, Except.bind]

/-! Groups -/

/-- The inside of a group is read with as much fuel as it needs. -/
theorem settled_parenthesis {name : Option String}
    (hopening : opening Flags.initial names s = .ok (.group name, rest)) :
    settled ⟨Flags.initial, names, branches, items, '(' :: s⟩ =
      ((settled ⟨Flags.initial, name :: names, [], [], rest⟩).bind fun last =>
        enclose ⟨Flags.initial, names, branches, items, '(' :: s⟩ (.group (names.length + 1))
          last.parsed).bind settled := by
  have hlen := length_of_opening hopening
  have hread : read (s.length + 1) ⟨Flags.initial, name :: names, [], [], rest⟩ =
      (settled ⟨Flags.initial, name :: names, [], [], rest⟩).map parsed := by
    rw [read_eq_settle, settle_eq_settled (Nat.lt_succ_of_le hlen)]
  rw [settled_eq rfl (isInside_cons (by decide))]
  simp only [advance, group, hopening, bind, Except.bind, List.length_cons]
  simp only [read] at hread
  rw [hread]
  cases settled ⟨Flags.initial, name :: names, [], [], rest⟩ <;> rfl

theorem settled_group {name : Option String} {rest' : List Char}
    (hopening : opening Flags.initial names s = .ok (.group name, rest))
    (hinner : settled ⟨Flags.initial, name :: names, [], [], rest⟩ = .ok last)
    (hflags : last.flags = Flags.initial) (hclose : last.text = ')' :: rest') :
    settled ⟨Flags.initial, names, branches, items, '(' :: s⟩ =
      settled ⟨Flags.initial, last.names, branches,
        .node (.group (names.length + 1) last.parsed.pattern) (last.parsed.depth + 1) :: items,
        rest'⟩ := by
  have hrest : last.parsed.rest = ')' :: rest' := by
    have hskip : last.parsed.rest = skip last.flags last.text := rfl
    rw [hskip, hflags, Pattern.skip_initial, hclose]
  rw [settled_parenthesis hopening, hinner]
  simp only [Except.bind, enclose, hrest]
  rfl

theorem settled_of_inner {name : Option String}
    (hopening : opening Flags.initial names s = .ok (.group name, rest))
    (hinner : settled ⟨Flags.initial, name :: names, [], [], rest⟩ = .error fault) :
    settled ⟨Flags.initial, names, branches, items, '(' :: s⟩ = .error fault := by
  rw [settled_parenthesis hopening, hinner]
  rfl

theorem settled_of_opening (h : opening Flags.initial names s = .error fault) :
    settled ⟨Flags.initial, names, branches, items, '(' :: s⟩ = .error fault := by
  rw [settled_eq rfl (isInside_cons (by decide))]
  simp only [advance, group, h, bind, Except.bind]

/-! Names of groups -/

theorem groupName_of_notMem {name : List Char} (hend : '>' ∉ name) :
    groupName names (name ++ '>' :: s) =
      if !validName name then .error .groupName
      else if names.contains (some (String.ofList name)) then
        .error (.groupNameTwice (String.ofList name))
      else .ok (String.ofList name, s) := by
  have hinside : ∀ c ∈ name, (decide (c ≠ '>')) = true := by
    intro c hc
    simp only [ne_eq, decide_eq_true_eq]
    rintro rfl
    exact hend hc
  have htake : (name ++ '>' :: s).takeWhile (· ≠ '>') = name := by
    rw [List.takeWhile_append_of_pos hinside]
    simp
  have hdrop : (name ++ '>' :: s).dropWhile (· ≠ '>') = '>' :: s := by
    rw [List.dropWhile_append_of_pos hinside]
    simp
  unfold groupName
  rw [htake, hdrop]

theorem opening_name {name : List Char} (hend : '>' ∉ name) (hvalid : validName name = true)
    (hnew : some (String.ofList name) ∉ names) :
    opening Flags.initial names ("?P<".toList ++ name ++ '>' :: s) =
      .ok (.group (some (String.ofList name)), s) := by
  have hskip : skip Flags.initial ("?P<".toList ++ name ++ '>' :: s) =
      '?' :: 'P' :: '<' :: (name ++ '>' :: s) := by
    simp [Pattern.skip_initial]
  rw [opening_of_nameP hskip, groupName_of_notMem hend]
  simp [hvalid, hnew, Except.bind]

theorem opening_of_not_validName {name : List Char} (hend : '>' ∉ name)
    (h : validName name = false) :
    opening Flags.initial names ("?P<".toList ++ name ++ '>' :: s) = .error .groupName := by
  have hskip : skip Flags.initial ("?P<".toList ++ name ++ '>' :: s) =
      '?' :: 'P' :: '<' :: (name ++ '>' :: s) := by
    simp [Pattern.skip_initial]
  rw [opening_of_nameP hskip, groupName_of_notMem hend]
  simp [h, Except.bind]

end Reading
end Reader

/-- What was read to the end is refused only for its size, if it does not nest too deeply. -/
theorem Pattern.parse_of_settled {s : List Char} {last : Reader.Reading}
    (h : Reader.Reading.settle (s.length + 1) (.start s) = .ok last)
    (hrest : Reader.skip last.flags last.text = []) (hdepth : last.parsed.depth ≤ maxNesting) :
    parse s = if last.parsed.pattern.weight ≤ maxWeight then
      .ok (last.parsed.pattern, last.names.reverse) else .error .tooLarge := by
  have hrest' : last.parsed.rest = [] := hrest
  unfold parse
  rw [body_start, h]
  simp only [Except.map, bind, Except.bind, hrest', if_neg (Nat.not_lt.2 hdepth)]
  split
  · rename_i hlarge
    rw [if_neg (Nat.not_le.2 hlarge)]
  · rename_i hsmall
    rw [if_pos (Nat.not_lt.1 hsmall)]
    rfl

end Harvest.Regex
