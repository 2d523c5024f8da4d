import Mathlib.Algebra.GroupWithZero.Nat
import Harvest.Proofs.Regex.Items
import Harvest.Proofs.Regex.Outline
import Harvest.Route
/-!
Templates as sequences of pieces: characters that stand for themselves, placeholders, and segments
with a placeholder that may be left out. Each piece is expanded on its own, and what it is expanded
to is read as one item of the expression. A template compiles just if its names are names of groups
and its expression is small enough.
-/

/-! What pieces are expanded to -/

namespace Harvest.Route

open Regex (Pattern Fault Flags)
open Regex.Reader (Item Names Reading)

/-- Whether a text has characters of segments only, and at least one. -/
def IsWord (w : List Char) : Prop := w ≠ [] ∧ ∀ c ∈ w, inWord c = true

inductive Piece
  | char (c : Char)
  | capture (name : List Char)
  | optional (name : List Char)

namespace Piece

def source : Piece → List Char
  | .char c => [c]
  | .capture name => ':' :: name
  | .optional name => "(/:".toList ++ name ++ ")?".toList

/-- What a piece is expanded to. -/
def expanded : Piece → List Char
  | .char c => [c]
  | .capture name => group name
  | .optional name => "(/".toList ++ group name ++ ")?".toList

/-- The names of the groups of a piece. -/
def groups : Piece → List (Option String)
  | .char _ => []
  | .capture name => [some (String.ofList name)]
  | .optional name => [none, some (String.ofList name)]

/-- Whether a piece is made of characters of segments and slashes. -/
def IsPlain : Piece → Prop
  | .char c => inWord c = true ∨ c = '/'
  | .capture name => IsWord name
  | .optional name => IsWord name

end Piece

namespace Pieces

def source (ps : List Piece) : List Char := ps.flatMap Piece.source

def expanded (ps : List Piece) : List Char := ps.flatMap Piece.expanded

/-- Whether no segment goes on at the beginning of a text. -/
def EndsWord (s : List Char) : Prop := ∀ c ∈ s.head?, inWord c = false

/-- Whether pieces match nothing that begins with a character of a segment. -/
def RejectsWord : List Piece → Prop
  | [] => True
  | .char c :: _ => inWord c = false
  | .capture _ :: _ => False
  | .optional _ :: ps => RejectsWord ps

/-- Whether every placeholder ends where its segment does. -/
def IsSeparated : List Piece → Prop
  | [] => True
  | .char _ :: ps => IsSeparated ps
  | .capture _ :: ps => RejectsWord ps ∧ IsSeparated ps
  | .optional _ :: ps => RejectsWord ps ∧ IsSeparated ps

section

variable {c : Char} {s w name : List Char} {ps : List Piece}

theorem takeWhile_word (hw : ∀ c ∈ w, inWord c = true) (hs : EndsWord s) :
    (w ++ s).takeWhile inWord = w := by
  rw [List.takeWhile_append_of_pos hw]
  cases s with
  | nil => exact List.append_nil w
  | cons c s => simp [hs c rfl]

theorem dropWhile_word (hw : ∀ c ∈ w, inWord c = true) (hs : EndsWord s) :
    (w ++ s).dropWhile inWord = s := by
  rw [List.dropWhile_append_of_pos hw]
  cases s with
  | nil => rfl
  | cons c s => simp [hs c rfl]

/-! Expansion -/

theorem expand_cons (hc : c ≠ ':') (s : List Char) : expand (c :: s) = c :: expand s := by
  rw [expand]
  exact hc

theorem expand_name (hname : IsWord name) (hs : EndsWord s) :
    expand (':' :: (name ++ s)) = group name ++ expand s := by
  rw [expand, takeWhile_word hname.2 hs, dropWhile_word hname.2 hs, if_neg (by simpa using hname.1)]

theorem endsWord_source (h : RejectsWord ps) : EndsWord (source ps) := by
  cases ps with
  | nil => rintro c ⟨⟩
  | cons p ps =>
    cases p with
    | char c =>
      rintro _ ⟨⟩
      exact h
    | capture name => cases h
    | optional name =>
      rintro _ ⟨⟩
      rfl

theorem expand_source (hplain : ∀ p ∈ ps, p.IsPlain) (hseparated : IsSeparated ps) :
    expand (source ps) = expanded ps := by
  induction ps with
  | nil => exact expand.eq_1
  | cons p ps ih =>
    obtain ⟨hp, hps⟩ := List.forall_mem_cons.1 hplain
    cases p with
    | char c =>
      have hc : c ≠ ':' := by
        rintro rfl
        rcases hp with hp | hp
        · exact absurd hp (by decide)
        · exact absurd hp (by decide)
      exact (expand_cons hc _).trans (congrArg (c :: ·) (ih hps hseparated))
    | capture name =>
      have hends := endsWord_source hseparated.1
      exact (expand_name hp hends).trans (congrArg (group name ++ ·) (ih hps hseparated.2))
    | optional name =>
      have hends : EndsWord (")?".toList ++ source ps) := by
        rintro _ ⟨⟩
        rfl
      have hclose : expand (")?".toList ++ source ps) = ")?".toList ++ expanded ps := by
        rw [← ih hps hseparated.2]
        exact (expand_cons (by decide) _).trans
          (congrArg (')' :: ·) (expand_cons (by decide) (source ps)))
      have hname : expand (':' :: (name ++ (")?".toList ++ source ps))) =
          group name ++ (")?".toList ++ expanded ps) := by
        rw [expand_name hp hends, hclose]
      have hopen : expand ('(' :: '/' :: ':' :: (name ++ (")?".toList ++ source ps))) =
          '(' :: '/' :: (group name ++ (")?".toList ++ expanded ps)) := by
        rw [expand_cons (by decide), expand_cons (by decide), hname]
      simpa [source, expanded, Piece.source, Piece.expanded] using hopen

end
end Pieces
/-! The expression, read piece by piece -/

open Harvest.Text (CharSet)

/-- The characters of segments as they are read in brackets. -/
def segmentSet : CharSet := ⟨[(45, 45), (48, 57), (65, 90), (95, 95), (97, 122)]⟩

/-- What one segment is matched by. -/
def segment : Pattern := .rep (.char segmentSet) 1 none true

namespace Piece

/-- What a piece is read as, where its first group has a number. -/
def pattern (n : Nat) : Piece → Pattern
  | .char c => .char (.single c)
  | .capture _ => .group n segment
  | .optional _ =>
    .rep (.group n (.seq (.char (.single '/')) (.group (n + 1) segment))) 0 (some 1) true

/-- How deep the pattern of a piece nests. -/
def depth : Piece → Nat
  | .char _ => 0
  | .capture _ => 3
  | .optional _ => 6

/-- The name of the placeholder of a piece. -/
def name? : Piece → Option (List Char)
  | .char _ => none
  | .capture name => some name
  | .optional name => some name

/-- The bytes that a piece is taken to need. -/
def weight : Piece → Nat
  | .char _ => 32
  | .capture _ => 208
  | .optional _ => 384

end Piece

namespace Pieces

/-- What pieces are read as, where their first group has a number. -/
def patterns : Nat → List Piece → List Pattern
  | _, [] => []
  | n, p :: ps => p.pattern n :: patterns (n + p.groups.length) ps

/-- The names of the placeholders of pieces. -/
def names (ps : List Piece) : List (List Char) := ps.filterMap Piece.name?

/-- The names of the groups of pieces; that of a segment that may be left out has none. -/
def groups (ps : List Piece) : List (Option String) := ps.flatMap Piece.groups

section

variable {s : List Char} {ps : List Piece} {seen : Names} {branches : List (Pattern × Nat)}
  {items : List Item}

theorem contains_segmentSet (c : Char) : segmentSet.contains c = inWord c := by
  have hhyphen : c = '-' ↔ c.toNat = 45 := Char.toNat_inj.symm
  have hlow : c = '_' ↔ c.toNat = 95 := Char.toNat_inj.symm
  have halpha : c.isAlpha = (decide ('A'.val ≤ c.val ∧ c.val ≤ 'Z'.val) ||
      (decide ('a'.val ≤ c.val) && decide (c.val ≤ 'z'.val))) := rfl
  rw [Bool.eq_iff_iff]
  simp [CharSet.contains, CharSet.holds, segmentSet, inWord, Char.isAlphanum, halpha,
    Char.isDigit, UInt32.le_iff_toNat_le, hhyphen, hlow]
  omega

theorem ofRanges_segment :
    CharSet.ofRanges [(45, 45), (95, 95), (48, 57), (65, 90), (97, 122)] = segmentSet := by
  have hsorted : [(45, 45), (95, 95), (48, 57), (65, 90), (97, 122)].mergeSort
      (fun a b : Nat × Nat => a.1 ≤ b.1) = segmentSet.ranges := by
    simp [List.mergeSort, List.MergeSort.Internal.splitInTwo, segmentSet]
  rw [CharSet.ofRanges, hsorted]
  rfl

theorem bracket_segment (fuel : Nat) (s : List Char) :
    Regex.Reader.bracket (fuel + 7) Flags.initial ("a-zA-Z0-9_-]".toList ++ s) =
      .ok (segmentSet, s) := by
  rw [← ofRanges_segment]
  rfl

/-! Reading pieces -/

theorem settled_class :
    Reading.settled ⟨Flags.initial, seen, branches, items, "[a-zA-Z0-9_-]".toList ++ s⟩ =
      Reading.settled ⟨Flags.initial, seen, branches,
        .node (.char segmentSet) 1 :: items, s⟩ := by
  have hlength : ("a-zA-Z0-9_-]".toList ++ s).length + 1 = s.length + 6 + 7 := by simp
  have hbracket : Regex.Reader.bracket (("a-zA-Z0-9_-]".toList ++ s).length + 1) Flags.initial
      ("a-zA-Z0-9_-]".toList ++ s) = .ok (segmentSet, s) := by
    rw [hlength, bracket_segment]
  have htext : "[a-zA-Z0-9_-]".toList ++ s = '[' :: ("a-zA-Z0-9_-]".toList ++ s) := rfl
  rw [htext, Reading.settled_eq rfl (Reading.isInside_cons (by decide))]
  simp only [Reading.advance, hbracket]
  rfl

/-- The inside of the group of a placeholder. -/
theorem settled_segment :
    Reading.settled ⟨Flags.initial, seen, [], [], "[a-zA-Z0-9_-]+)".toList ++ s⟩ =
      .ok ⟨Flags.initial, seen, [], [.node segment 2], ')' :: s⟩ := by
  have htext : "[a-zA-Z0-9_-]+)".toList ++ s = "[a-zA-Z0-9_-]".toList ++ ('+' :: ')' :: s) := rfl
  have hplus : Reading.repeated ⟨Flags.initial, seen, [], [.node (.char segmentSet) 1],
      '+' :: ')' :: s⟩ 1 none (')' :: s) =
      .ok ⟨Flags.initial, seen, [], [.node segment 2], ')' :: s⟩ :=
    Reading.repeated_node (by simp) (by rintro t ⟨⟩)
  rw [htext, settled_class, Reading.settled_eq rfl (Reading.isInside_cons (by decide))]
  simp only [Reading.advance, hplus, Except.bind]
  exact Reading.settled_of_not_isInside rfl fun h => h.2 s rfl

theorem notMem_of_word {name : List Char} (hname : ∀ c ∈ name, inWord c = true) :
    '>' ∉ name := fun hmem => absurd (hname _ hmem) (by decide)

theorem settled_capture {name : List Char} (hname : ∀ c ∈ name, inWord c = true)
    (hvalid : Regex.Reader.validName name = true) (hnew : some (String.ofList name) ∉ seen) :
    Reading.settled ⟨Flags.initial, seen, branches, items, group name ++ s⟩ =
      Reading.settled ⟨Flags.initial, some (String.ofList name) :: seen, branches,
        .node (.group (seen.length + 1) segment) 3 :: items, s⟩ := by
  have htext : group name ++ s =
      '(' :: ("?P<".toList ++ name ++ '>' :: ("[a-zA-Z0-9_-]+)".toList ++ s)) := by
    simp [group]
  rw [htext]
  exact Reading.settled_group (Reading.opening_name (notMem_of_word hname) hvalid hnew)
    settled_segment rfl rfl

theorem settled_optional {name : List Char} (hname : ∀ c ∈ name, inWord c = true)
    (hvalid : Regex.Reader.validName name = true) (hnew : some (String.ofList name) ∉ seen)
    (hs : Regex.Reader.NotLazy s) :
    Reading.settled ⟨Flags.initial, seen, branches, items,
        (Piece.optional name).expanded ++ s⟩ =
      Reading.settled ⟨Flags.initial, some (String.ofList name) :: none :: seen, branches,
        .node ((Piece.optional name).pattern (seen.length + 1)) 6 :: items, s⟩ := by
  have htext : (Piece.optional name).expanded ++ s =
      '(' :: '/' :: (group name ++ ')' :: '?' :: s) := by
    simp [Piece.expanded]
  have hopening : Regex.Reader.opening Flags.initial seen ('/' :: (group name ++ ')' :: '?' :: s)) =
      .ok (.group none, '/' :: (group name ++ ')' :: '?' :: s)) :=
    Regex.Reader.opening_of_ne (by rintro u ⟨⟩)
  have hnew' : some (String.ofList name) ∉ none :: seen := by simpa using hnew
  have hinner : Reading.settled ⟨Flags.initial, none :: seen, [], [],
      '/' :: (group name ++ ')' :: '?' :: s)⟩ =
      .ok ⟨Flags.initial, some (String.ofList name) :: none :: seen, [],
        [.node (.group (seen.length + 2) segment) 3, .node (.char (.single '/')) 0],
        ')' :: '?' :: s⟩ := by
    rw [Reading.settled_char (by decide), settled_capture hname hvalid hnew']
    exact Reading.settled_of_not_isInside rfl fun h => h.2 ('?' :: s) rfl
  rw [htext, Reading.settled_group hopening hinner rfl rfl,
    Reading.settled_eq rfl (Reading.isInside_cons (by decide))]
  simp only [Reading.advance]
  rw [Reading.repeated_node (by simp) hs]
  rfl

theorem settled_of_not_validName {name : List Char} (hname : ∀ c ∈ name, inWord c = true)
    (h : Regex.Reader.validName name = false) :
    Reading.settled ⟨Flags.initial, seen, branches, items, group name ++ s⟩ =
      .error .groupName := by
  have htext : group name ++ s =
      '(' :: ("?P<".toList ++ name ++ '>' :: ("[a-zA-Z0-9_-]+)".toList ++ s)) := by
    simp [group]
  rw [htext]
  exact Reading.settled_of_opening (Reading.opening_of_not_validName (notMem_of_word hname) h)

/-- What pieces are read as, item by item. -/
def itemsFrom : Nat → List Piece → List Item
  | _, [] => []
  | n, p :: ps => .node (p.pattern n) p.depth :: itemsFrom (n + p.groups.length) ps

theorem notLazy_expanded (hplain : ∀ p ∈ ps, p.IsPlain) (hs : Regex.Reader.NotLazy s) :
    Regex.Reader.NotLazy (expanded ps ++ s) := by
  cases ps with
  | nil => exact hs
  | cons p ps =>
    cases p with
    | char c =>
      rintro t ⟨⟩
      rcases hplain (.char '?') List.mem_cons_self with h | h
      · exact absurd h (by decide)
      · exact absurd h (by decide)
    | capture name => rintro t ⟨⟩
    | optional name => rintro t ⟨⟩

theorem notMem_special {c : Char} (hc : inWord c = true ∨ c = '/') : c ∉ Regex.Reader.special := by
  intro hmem
  simp only [Regex.Reader.special, Reading.operators, List.mem_cons, List.not_mem_nil,
    or_false] at hmem
  rcases hmem with rfl | rfl | rfl | rfl | rfl | rfl | rfl | rfl | rfl | rfl | rfl | rfl <;>
    exact absurd hc (by decide)

/-- One piece is read as one item. -/
theorem settled_piece {p : Piece} (hp : p.IsPlain)
    (hvalid : ∀ name ∈ p.name?, Regex.Reader.validName name = true)
    (hnew : ∀ name ∈ p.name?, some (String.ofList name) ∉ seen)
    (hs : Regex.Reader.NotLazy s) :
    Reading.settled ⟨Flags.initial, seen, branches, items, p.expanded ++ s⟩ =
      Reading.settled ⟨Flags.initial, p.groups.reverse ++ seen, branches,
        .node (p.pattern (seen.length + 1)) p.depth :: items, s⟩ := by
  cases p with
  | char c => exact Reading.settled_char (notMem_special hp)
  | capture name => exact settled_capture hp.2 (hvalid name rfl) (hnew name rfl)
  | optional name => exact settled_optional hp.2 (hvalid name rfl) (hnew name rfl) hs

/-- A piece whose name is none of a group is refused. -/
theorem settled_piece_error {p : Piece} {name : List Char} (hp : p.IsPlain)
    (hname : p.name? = some name) (h : Regex.Reader.validName name = false) :
    Reading.settled ⟨Flags.initial, seen, branches, items, p.expanded ++ s⟩ =
      .error .groupName := by
  cases p with
  | char c => cases hname
  | capture name' =>
    cases hname
    exact settled_of_not_validName hp.2 h
  | optional name' =>
    cases hname
    have htext : (Piece.optional name).expanded ++ s =
        '(' :: '/' :: (group name ++ ')' :: '?' :: s) := by
      simp [Piece.expanded]
    have hopening : Regex.Reader.opening Flags.initial seen
        ('/' :: (group name ++ ')' :: '?' :: s)) =
        .ok (.group none, '/' :: (group name ++ ')' :: '?' :: s)) :=
      Regex.Reader.opening_of_ne (by rintro u ⟨⟩)
    rw [htext]
    refine Reading.settled_of_inner hopening ?_
    rw [Reading.settled_char (by decide)]
    exact settled_of_not_validName hp.2 h

theorem mem_names_cons {p : Piece} {name : List Char} :
    name ∈ names (p :: ps) ↔ p.name? = some name ∨ name ∈ names ps := by
  cases h : p.name? with
  | none => simp [names, h]
  | some name' => simp [names, h, eq_comm]

theorem mem_groups_iff {p : Piece} {text : String} :
    some text ∈ p.groups ↔ ∃ name ∈ p.name?, String.ofList name = text := by
  cases p <;> simp [Piece.groups, Piece.name?, eq_comm]

/-- The names of further pieces are still new after one more. -/
theorem new_of_nodup {p : Piece} (hdistinct : (names (p :: ps)).Nodup)
    (hnew : ∀ name ∈ names (p :: ps), some (String.ofList name) ∉ seen) :
    (names ps).Nodup ∧ ∀ name ∈ names ps, some (String.ofList name) ∉ p.groups.reverse ++ seen := by
  have hrest : (names ps).Nodup := by
    refine hdistinct.sublist ?_
    simpa [names] using (List.sublist_cons_self p ps).filterMap Piece.name?
  refine ⟨hrest, fun name hname hmem => ?_⟩
  rcases List.mem_append.1 hmem with hmem | hmem
  · obtain ⟨name', hname', htext⟩ := mem_groups_iff.1 (List.mem_reverse.1 hmem)
    obtain rfl : name' = name := String.ofList_injective htext
    have hcons : names (p :: ps) = name' :: names ps := by
      rw [names, List.filterMap_cons_some hname', names]
    rw [hcons] at hdistinct
    exact (List.nodup_cons.1 hdistinct).1 hname
  · exact hnew name (mem_names_cons.2 (.inr hname)) hmem

theorem expanded_cons (p : Piece) (ps : List Piece) :
    expanded (p :: ps) = p.expanded ++ expanded ps := List.flatMap_cons

theorem settled_expanded (hplain : ∀ p ∈ ps, p.IsPlain)
    (hvalid : ∀ name ∈ names ps, Regex.Reader.validName name = true)
    (hdistinct : (names ps).Nodup)
    (hnew : ∀ name ∈ names ps, some (String.ofList name) ∉ seen)
    (hs : Regex.Reader.NotLazy s) :
    Reading.settled ⟨Flags.initial, seen, branches, items, expanded ps ++ s⟩ =
      Reading.settled ⟨Flags.initial, (groups ps).reverse ++ seen, branches,
        (itemsFrom (seen.length + 1) ps).reverse ++ items, s⟩ := by
  -- by the pieces, with the names of those in front among the names that were seen
  induction ps generalizing seen items with
  | nil => rfl
  | cons p ps ih =>
    obtain ⟨hp, hps⟩ := List.forall_mem_cons.1 hplain
    obtain ⟨hdistinct', hnew'⟩ := new_of_nodup hdistinct hnew
    have hlength : (p.groups.reverse ++ seen).length + 1 =
        seen.length + 1 + p.groups.length := by
      simp only [List.length_append, List.length_reverse]
      omega
    rw [expanded_cons, List.append_assoc, settled_piece hp
      (fun name hname => hvalid name (mem_names_cons.2 (.inl hname)))
      (fun name hname => hnew name (mem_names_cons.2 (.inl hname))) (notLazy_expanded hps hs),
      ih hps (fun name hname => hvalid name (mem_names_cons.2 (.inr hname))) hdistinct' hnew',
      hlength]
    simp [groups, itemsFrom]

/-- Pieces are refused for the first name that is none of a group. -/
theorem settled_expanded_error (hplain : ∀ p ∈ ps, p.IsPlain)
    (hvalid : ∃ name ∈ names ps, Regex.Reader.validName name = false)
    (hdistinct : (names ps).Nodup)
    (hnew : ∀ name ∈ names ps, some (String.ofList name) ∉ seen)
    (hs : Regex.Reader.NotLazy s) :
    Reading.settled ⟨Flags.initial, seen, branches, items, expanded ps ++ s⟩ =
      .error .groupName := by
  induction ps generalizing seen items with
  | nil =>
    obtain ⟨name, hname, -⟩ := hvalid
    cases hname
  | cons p ps ih =>
    obtain ⟨hp, hps⟩ := List.forall_mem_cons.1 hplain
    obtain ⟨hdistinct', hnew'⟩ := new_of_nodup hdistinct hnew
    rw [expanded_cons, List.append_assoc]
    by_cases hfirst : ∃ name ∈ p.name?, Regex.Reader.validName name = false
    · obtain ⟨name, hname, hinvalid⟩ := hfirst
      exact settled_piece_error hp hname hinvalid
    · have hvalid' : ∀ name ∈ p.name?, Regex.Reader.validName name = true := by
        intro name hname
        have hall := fun h => hfirst ⟨name, hname, h⟩
        simpa using hall
      rw [settled_piece hp hvalid' (fun name hname => hnew name (mem_names_cons.2 (.inl hname)))
        (notLazy_expanded hps hs)]
      refine ih hps ?_ hdistinct' hnew'
      obtain ⟨name, hname, hinvalid⟩ := hvalid
      refine ⟨name, (mem_names_cons.1 hname).resolve_left fun hfirst' => ?_, hinvalid⟩
      exact hfirst ⟨name, hfirst', hinvalid⟩

/-! The whole expression -/

/-- What pieces are read as between the signs. -/
def pattern (ps : List Piece) : Pattern :=
  .concat (.look .startText :: patterns 1 ps ++ [.look .endText])

/-- The bytes that the expression of pieces is taken to need. -/
def weight (ps : List Piece) : Nat := 64 + (ps.map Piece.weight).sum

theorem weight_concat {p : Pattern} {l : List Pattern} :
    (Pattern.concat (p :: l)).weight = ((p :: l).map Pattern.weight).sum := by
  induction l generalizing p with
  | nil => simp [Pattern.concat]
  | cons q l ih =>
    rw [Pattern.concat, Pattern.weight, ih]
    · rfl
    · simp

theorem weight_segment : segment.weight = 144 := rfl

theorem toNat_lt_of_inWord {c : Char} (hc : inWord c = true) : c.toNat < 128 := by
  rw [← contains_segmentSet] at hc
  simp only [CharSet.contains, CharSet.holds, segmentSet, List.any_cons, List.any_nil,
    Bool.or_false, Bool.or_eq_true, Bool.and_eq_true, decide_eq_true_eq] at hc
  omega

theorem utf8Size_of_isPlain {c : Char} (hc : inWord c = true ∨ c = '/') : c.utf8Size = 1 := by
  have hsmall : c.toNat ≤ 127 := by
    rcases hc with hc | rfl
    · exact Nat.le_of_lt_succ (toNat_lt_of_inWord hc)
    · decide
  have hval : c.val ≤ 0x7f := UInt32.le_iff_toNat_le.2 hsmall
  exact if_pos hval

theorem weight_single {c : Char} (hc : inWord c = true ∨ c = '/') :
    (Pattern.char (.single c)).weight = 32 := by
  simp [Pattern.weight, Pattern.setWeight, CharSet.single, utf8Size_of_isPlain hc]

theorem weight_piece {p : Piece} (hp : p.IsPlain) (n : Nat) : (p.pattern n).weight = p.weight := by
  cases p with
  | char c => exact weight_single hp
  | capture name => rfl
  | optional name => rfl

theorem weight_patterns (hplain : ∀ p ∈ ps, p.IsPlain) (n : Nat) :
    ((patterns n ps).map Pattern.weight).sum = (ps.map Piece.weight).sum := by
  induction ps generalizing n with
  | nil => rfl
  | cons p ps ih =>
    obtain ⟨hp, hps⟩ := List.forall_mem_cons.1 hplain
    simp [patterns, weight_piece hp, ih hps]

theorem weight_pattern (hplain : ∀ p ∈ ps, p.IsPlain) : (pattern ps).weight = weight ps := by
  rw [pattern, List.cons_append, weight_concat]
  simp [weight_patterns hplain, weight, Pattern.weight]
  omega

theorem nodes_itemsFrom (n : Nat) (ps : List Piece) :
    Regex.Reader.nodes (itemsFrom n ps).reverse = patterns n ps := by
  induction ps generalizing n with
  | nil => rfl
  | cons p ps ih =>
    simp only [Regex.Reader.nodes, List.reverse_reverse] at ih ⊢
    simp [itemsFrom, patterns, ih]

theorem depth_itemsFrom {n : Nat} {item : Item} (h : item ∈ itemsFrom n ps) : item.depth ≤ 6 := by
  induction ps generalizing n with
  | nil => cases h
  | cons p ps ih =>
    rcases List.mem_cons.1 h with rfl | h
    · cases p <;> simp [Regex.Reader.Item.depth, Piece.depth]
    · exact ih h

/-- The items between the signs, the last first, with the signs. -/
def allItems (ps : List Piece) : List Item :=
  .node (.look .endText) 0 :: ((itemsFrom 1 ps).reverse ++ [Reading.caret])

theorem sequence_allItems (ps : List Piece) :
    (Regex.Reader.sequence (allItems ps)).1 = pattern ps := by
  rw [Regex.Reader.sequence_pattern, allItems, Regex.Reader.nodes_cons, Regex.Reader.nodes_caret,
    nodes_itemsFrom]
  rfl

theorem depth_allItems (ps : List Piece) : (Regex.Reader.sequence (allItems ps)).2 ≤ 7 := by
  have hfold : ∀ (items : List Item) (d : Nat), d ≤ 6 → (∀ item ∈ items, item.depth ≤ 6) →
      items.foldl (fun d i => max d i.depth) d ≤ 6 := by
    intro items
    induction items with
    | nil => exact fun d hd _ => hd
    | cons item items ih =>
      intro d hd hitems
      obtain ⟨hitem, hrest⟩ := List.forall_mem_cons.1 hitems
      exact ih (max d item.depth) (Nat.max_le.2 ⟨hd, hitem⟩) hrest
  have hall : ∀ item ∈ allItems ps, item.depth ≤ 6 := by
    intro item hitem
    simp only [allItems, List.mem_cons, List.mem_append, List.mem_reverse, List.not_mem_nil,
      or_false] at hitem
    rcases hitem with rfl | hitem | rfl
    · exact Nat.zero_le 6
    · exact depth_itemsFrom hitem
    · exact Nat.zero_le 6
  have hdeepest := hfold (allItems ps) 0 (Nat.zero_le 6) hall
  simp only [Regex.Reader.sequence]
  split <;> omega

theorem settled_dollar :
    Reading.settled ⟨Flags.initial, seen, branches, items, ['$']⟩ =
      .ok ⟨Flags.initial, seen, branches, .node (.look .endText) 0 :: items, []⟩ := by
  rw [Reading.settled_eq rfl (Reading.isInside_cons (by decide)),
    Reading.advance_of_not_mem (by decide)]
  exact Reading.settled_of_not_isInside rfl fun h => h.1 rfl

/-- The expression of pieces is read just if their names are names of groups, and if it is small
    enough. -/
theorem parse_expanded (hplain : ∀ p ∈ ps, p.IsPlain) (hdistinct : (names ps).Nodup) :
    Pattern.parse ('^' :: expanded ps ++ ['$']) =
      if ∀ name ∈ names ps, Regex.Reader.validName name = true then
        if weight ps ≤ Pattern.maxWeight then .ok (pattern ps, groups ps) else .error .tooLarge
      else .error .groupName := by
  have hstart : Reading.settle (('^' :: expanded ps ++ ['$']).length + 1)
      (.start ('^' :: expanded ps ++ ['$'])) =
      Reading.settled ⟨Flags.initial, [], [], [Reading.caret], expanded ps ++ ['$']⟩ := by
    rw [List.cons_append, Pattern.settle_caret]
    exact Reading.settle_eq_settled (Nat.lt_succ_self _)
  have hnew : ∀ name ∈ names ps, some (String.ofList name) ∉ ([] : Names) := by simp
  have hdollar : Regex.Reader.NotLazy ['$'] := by rintro t ⟨⟩
  split
  · rename_i hvalid
    have hlast := hstart.trans (settled_expanded hplain hvalid hdistinct hnew hdollar)
    rw [settled_dollar] at hlast
    have hdepth : (Regex.Reader.alternatives [Regex.Reader.sequence (allItems ps)]).2 ≤ 7 := by
      simpa [Regex.Reader.alternatives] using depth_allItems ps
    have hparsed := Pattern.parse_of_settled hlast rfl (Nat.le_trans hdepth (by decide))
    have hpattern : ∀ last : Reading, last.branches = [] → last.items = allItems ps →
        last.parsed.pattern = pattern ps := by
      rintro ⟨f, seen, branches, items, s⟩ rfl rfl
      exact sequence_allItems ps
    rw [hparsed, hpattern _ rfl rfl, weight_pattern hplain, List.append_nil, List.reverse_reverse]
  · rename_i hvalid
    refine Pattern.parse_of_settle (hstart.trans ?_)
    refine settled_expanded_error hplain ?_ hdistinct hnew hdollar
    simpa using hvalid

/-! Every group is left in the pattern -/

theorem hasGroup_concat {i : Nat} {l : List Pattern} :
    (Pattern.concat l).hasGroup i = l.any (Pattern.hasGroup i) := by
  induction l with
  | nil => rfl
  | cons p l ih =>
    cases l with
    | nil => simp [Pattern.concat]
    | cons q l => simp [Pattern.concat, Pattern.hasGroup, ih]

theorem hasGroup_piece {p : Piece} {n k : Nat} (h : k < p.groups.length) :
    (p.pattern n).hasGroup (n + k) = true := by
  cases p with
  | char c => cases h
  | capture name =>
    obtain rfl : k = 0 := by simpa [Piece.groups] using h
    simp [Piece.pattern, Pattern.hasGroup]
  | optional name =>
    have hk : k = 0 ∨ k = 1 := by
      simp only [Piece.groups, List.length_cons, List.length_nil] at h
      omega
    rcases hk with rfl | rfl <;> simp [Piece.pattern, Pattern.hasGroup]

theorem hasGroup_patterns {n k : Nat} (h : k < (groups ps).length) :
    (patterns n ps).any (Pattern.hasGroup (n + k)) = true := by
  induction ps generalizing n k with
  | nil => cases h
  | cons p ps ih =>
    rw [patterns, List.any_cons, Bool.or_eq_true]
    by_cases hk : k < p.groups.length
    · exact .inl (hasGroup_piece hk)
    · obtain ⟨j, rfl⟩ := Nat.exists_eq_add_of_le (Nat.not_lt.1 hk)
      rw [groups, List.flatMap_cons, List.length_append, ← groups] at h
      rw [← Nat.add_assoc]
      exact .inr (ih (by omega))

theorem hasGroup_pattern {k : Nat} (h : k < (groups ps).length) :
    (pattern ps).hasGroup (k + 1) = true := by
  have hpatterns : (patterns 1 ps).any (Pattern.hasGroup (k + 1)) = true := by
    rw [Nat.add_comm]
    exact hasGroup_patterns h
  rw [pattern, hasGroup_concat, List.any_append, List.any_cons, hpatterns]
  simp

/-- What the expression of pieces compiles to. -/
def regex (ps : List Piece) : Regex := ⟨pattern ps, groups ps, (pattern ps).program⟩

theorem compile_expanded (hplain : ∀ p ∈ ps, p.IsPlain) (hdistinct : (names ps).Nodup) :
    Regex.compile ("^" ++ String.ofList (expanded ps) ++ "$") =
      if ∀ name ∈ names ps, Regex.Reader.validName name = true then
        if weight ps ≤ Pattern.maxWeight then .ok (regex ps) else .error .tooLarge
      else .error .groupName := by
  have htext : ("^" ++ String.ofList (expanded ps) ++ "$").toList =
      '^' :: expanded ps ++ ['$'] := by
    simp
  -- no name is dropped, for every group is left in the pattern
  have hkept : (groups ps).zipIdx.map (fun x : Option String × Nat =>
      if (pattern ps).hasGroup (x.2 + 1) = true then x.1 else none) = groups ps := by
    refine List.ext_getElem (by simp) fun k hk hk' => ?_
    have hgroup := hasGroup_pattern hk'
    simp [hgroup]
  unfold Regex.compile
  rw [htext, parse_expanded hplain hdistinct]
  split
  · split
    · simp only [bind, Except.bind]
      rw [hkept, regex]
    · rfl
  · rfl

end
end Pieces
end Harvest.Route
