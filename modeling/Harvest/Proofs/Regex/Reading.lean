import Harvest.Regex.Reader
/-!
The reading of a group as a loop over its items. A round of the loop reads one item, one operator
or the bar between alternatives; the loop ends before a closing parenthesis and at the end of the
text.
-/

namespace Harvest.Regex.Reader

/-- How far a group was read: the flags and names by now, the alternatives before this one and the
    items of this one, the last first, and the text that is left. -/
structure Reading where
  flags : Flags
  names : Names
  branches : List (Pattern × Nat)
  items : List Item
  text : List Char

namespace Reading

/-- The group as it would be read if it ended here. -/
def parsed (st : Reading) : Parsed :=
  let (p, d) := alternatives (sequence st.items :: st.branches)
  ⟨p, d, st.names, skip st.flags st.text⟩

/-- One more item. -/
def add (st : Reading) (item : Item) (rest : List Char) : Reading :=
  { st with items := item :: st.items, text := rest }

/-- A repetition of the last item. -/
def repeated (st : Reading) (least : Nat) (most : Option Nat) (s : List Char) :
    Except Fault Reading := do
  let (items, rest) ← repeatLast st.flags st.items least most s
  .ok { st with items := items, text := rest }

/-- A group as an item, if it was read up to its closing parenthesis. -/
def enclose (st : Reading) (wrap : Pattern → Pattern) (inner : Parsed) : Except Fault Reading :=
  match inner.rest with
  | ')' :: rest =>
    .ok { st with
      names := inner.names
      items := .node (wrap inner.pattern) (inner.depth + 1) :: st.items
      text := rest }
  | _ => .error .groupUnclosed

/-- A group, after its parenthesis; groups in it are read with less fuel. -/
def group (fuel : Nat) (st : Reading) (s : List Char) : Except Fault Reading := do
  let (o, rest) ← opening st.flags st.names s
  match o with
  | .set f => .ok { st with flags := f, items := .flags :: st.items, text := rest }
  | .plain f => do st.enclose id (← body fuel f st.names [] [] rest)
  | .group name => do
    st.enclose (.group (st.names.length + 1)) (← body fuel st.flags (name :: st.names) [] [] rest)

/-- One round of the loop, at a character that does not close the group. -/
def advance (fuel : Nat) (st : Reading) : List Char → Except Fault Reading
  | '|' :: r => .ok { st with branches := sequence st.items :: st.branches, items := [], text := r }
  | '(' :: r => st.group fuel r
  | '[' :: r => do
    let (set, rest) ← bracket (r.length + 1) st.flags r
    .ok (st.add (.node (.char set) 1) rest)
  | '?' :: r => st.repeated 0 (some 1) r
  | '*' :: r => st.repeated 0 none r
  | '+' :: r => st.repeated 1 none r
  | '\x7b' :: r =>
    if st.items.isEmpty then .error .repetitionMissing
    else do
      let (least, most, r') ← counts st.flags r
      st.repeated least most r'
  | r => do
    let (p, rest) ← primitive st.flags r
    .ok (st.add (.node p 0) rest)

/-- Rounds of the loop up to its end. -/
def settle : Nat → Reading → Except Fault Reading
  | 0, _ => .error .tooDeep
  | fuel + 1, st =>
    match skip st.flags st.text with
    | [] => .ok st
    | ')' :: _ => .ok st
    | r => do settle fuel (← st.advance fuel r)

variable {fuel : Nat} {st : Reading}

/-- Whether a character is left in a group: anything but a closing parenthesis. -/
def IsInside (s : List Char) : Prop := s ≠ [] ∧ ∀ r, s ≠ ')' :: r

theorem settle_of_isInside (h : IsInside (skip st.flags st.text)) :
    settle (fuel + 1) st = (st.advance fuel (skip st.flags st.text)).bind (settle fuel) := by
  simp only [settle]
  split
  · exact absurd ‹_› h.1
  · exact absurd ‹_› (h.2 _)
  · rfl

theorem settle_of_not_isInside (h : ¬ IsInside (skip st.flags st.text)) :
    settle (fuel + 1) st = .ok st := by
  simp only [settle]
  split
  · rfl
  · rfl
  · rename_i hnil hparen
    exact absurd ⟨hnil, hparen⟩ h

/-- The reading of a group from here to its end. -/
abbrev read (fuel : Nat) (st : Reading) : Except Fault Parsed :=
  body fuel st.flags st.names st.branches st.items st.text

theorem read_of_isInside (h : IsInside (skip st.flags st.text)) :
    st.read (fuel + 1) = (st.advance fuel (skip st.flags st.text)).bind (read fuel) := by
  obtain ⟨f, names, branches, items, s⟩ := st
  simp only [read, body, advance]
  split
  · exact absurd ‹_› h.1
  · exact absurd ‹_› (h.2 _)
  · rename_i r hs
    simp [hs, Except.bind]
  · rename_i r hs
    simp only [hs, group]
    cases opening f names r with
    | error fault => rfl
    | ok read =>
      obtain ⟨o, rest⟩ := read
      cases o with
      | set f' => rfl
      | plain f' =>
        simp only [bind, Except.bind]
        cases body fuel f' names [] [] rest with
        | error fault => rfl
        | ok inner =>
          simp only [enclose]
          cases inner.rest with
          | nil => rfl
          | cons c rest' => by_cases hc : c = ')' <;> simp [hc]
      | group name =>
        simp only [bind, Except.bind]
        cases body fuel f (name :: names) [] [] rest with
        | error fault => rfl
        | ok inner =>
          simp only [enclose]
          cases inner.rest with
          | nil => rfl
          | cons c rest' => by_cases hc : c = ')' <;> simp [hc]
  · rename_i r hs
    simp only [hs]
    cases bracket (r.length + 1) f r <;> rfl
  · rename_i r hs
    simp only [hs, repeated]
    cases repeatLast f items 0 (some 1) r <;> rfl
  · rename_i r hs
    simp only [hs, repeated]
    cases repeatLast f items 0 none r <;> rfl
  · rename_i r hs
    simp only [hs, repeated]
    cases repeatLast f items 1 none r <;> rfl
  · rename_i r hs
    simp only [hs, repeated]
    split
    · rfl
    · cases counts f r with
      | error fault => rfl
      | ok read =>
        obtain ⟨least, most, r'⟩ := read
        simp only [bind, Except.bind]
        cases repeatLast f items least most r' <;> rfl
  · rename_i hnil hclose hbar hopen hbracket hquestion hstar hplus hbrace
    split
    · exact absurd ‹_› (hbar _)
    · exact absurd ‹_› (hopen _)
    · exact absurd ‹_› (hbracket _)
    · exact absurd ‹_› (hquestion _)
    · exact absurd ‹_› (hstar _)
    · exact absurd ‹_› (hplus _)
    · exact absurd ‹_› (hbrace _)
    · cases primitive f (skip f s) <;> rfl

theorem read_of_not_isInside (h : ¬ IsInside (skip st.flags st.text)) :
    st.read (fuel + 1) = .ok st.parsed := by
  obtain ⟨f, names, branches, items, s⟩ := st
  simp only [read, body, parsed]
  split
  · rename_i hs
    simp [hs]
  · rename_i r hs
    simp [hs]
  all_goals exact absurd (by simp_all [IsInside]) h

/-- A group is read by the loop. -/
theorem read_eq_settle (fuel : Nat) (st : Reading) :
    st.read fuel = (settle fuel st).map parsed := by
  induction fuel generalizing st with
  | zero => rfl
  | succ fuel ih =>
    by_cases h : IsInside (skip st.flags st.text)
    · rw [read_of_isInside h, settle_of_isInside h]
      cases st.advance fuel (skip st.flags st.text) with
      | error fault => rfl
      | ok st' => exact ih st'
    · rw [read_of_not_isInside h, settle_of_not_isInside h]
      rfl

theorem read_eq_ok_iff {inner : Parsed} :
    st.read fuel = .ok inner ↔ ∃ last, settle fuel st = .ok last ∧ last.parsed = inner := by
  rw [read_eq_settle]
  cases settle fuel st with
  | error fault => simp [Except.map]
  | ok last => simp [Except.map]

end Reading
end Harvest.Regex.Reader
