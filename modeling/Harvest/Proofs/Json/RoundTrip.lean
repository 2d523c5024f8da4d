import Harvest.Proofs.Json.Scalars
import Harvest.Proofs.Json.Rearrangement
/-!
Values that are written are read back, if they nest no deeper than the reader admits and every
number in them is read back.
-/

namespace Harvest.Json

mutual

/-- How many containers stand around the innermost value. -/
def nesting : Json → Nat
  | .arr items => nestingOfItems items + 1
  | .obj members => nestingOfMembers members + 1
  | .null => 0
  | .bool _ => 0
  | .num _ => 0
  | .str _ => 0

def nestingOfItems : List Json → Nat
  | [] => 0
  | v :: r => max v.nesting (nestingOfItems r)

def nestingOfMembers : List (String × Json) → Nat
  | [] => 0
  | (_, v) :: r => max v.nesting (nestingOfMembers r)

end

/-- Whether every number in a value is read back. -/
inductive IsReadable : Json → Prop
  | null : IsReadable .null
  | bool {b : Bool} : IsReadable (.bool b)
  | num {n : Number} (h : n.ReadsBack) : IsReadable (.num n)
  | str {s : String} : IsReadable (.str s)
  | arr {items : List Json} (h : ∀ v ∈ items, IsReadable v) : IsReadable (.arr items)
  | obj {members : List (String × Json)} (h : ∀ m ∈ members, IsReadable m.2) :
    IsReadable (.obj members)

/-- The text of some items up to the closing bracket. -/
def itemsText : List Json → List Char
  | [] => [']']
  | [v] => v.compact.toList ++ [']']
  | v :: w :: r => v.compact.toList ++ ',' :: itemsText (w :: r)

def memberText (k : String) (v : Json) : List Char := (quoted k).toList ++ ':' :: v.compact.toList

/-- The text of some members up to the closing brace. -/
def membersText : List (String × Json) → List Char
  | [] => ['\x7d']
  | [(k, v)] => memberText k v ++ ['\x7d']
  | (k, v) :: m :: r => memberText k v ++ ',' :: membersText (m :: r)

theorem itemsText_eq (items : List Json) :
    (",".intercalate (compactItems items) ++ "]").toList = itemsText items := by
  induction items with
  | nil => simp [compactItems, itemsText]
  | cons v r ih =>
    cases r with
    | nil => simp [compactItems, itemsText]
    | cons w r =>
      rw [itemsText, ← ih]
      simp [compactItems]

theorem membersText_eq (members : List (String × Json)) :
    (",".intercalate (compactMembers members) ++ "\x7d").toList = membersText members := by
  induction members with
  | nil => simp [compactMembers, membersText]
  | cons m r ih =>
    obtain ⟨k, v⟩ := m
    cases r with
    | nil => simp [compactMembers, membersText, memberText]
    | cons w r =>
      rw [membersText, ← ih]
      simp [compactMembers, memberText]

theorem toList_compact_arr (items : List Json) :
    (compact (.arr items)).toList = '[' :: itemsText items := by
  rw [← itemsText_eq]
  simp [compact]

theorem toList_compact_obj (members : List (String × Json)) :
    (compact (.obj members)).toList = '\x7b' :: membersText members := by
  rw [← membersText_eq]
  simp [compact]

namespace Reader

variable {fuel depth : Nat} {rest : List Char}

theorem skipSpace_cons {c : Char} (h : isSpace c = false) (r : List Char) :
    skipSpace (c :: r) = c :: r := by
  simp [skipSpace, h]

/-! A value by its first character -/

theorem value?_null : value? (fuel + 1) depth ("null".toList ++ rest) = some (.null, rest) := rfl

theorem value?_bool (b : Bool) :
    value? (fuel + 1) depth ((compact (.bool b)).toList ++ rest) = some (.bool b, rest) := by
  cases b <;> rfl

theorem value?_quote (r : List Char) : value? (fuel + 1) depth ('"' :: r) =
    (string? ('"' :: r)).map fun (t, r') => (.str t, r') :=
  rfl

theorem value?_quoted (s : String) :
    value? (fuel + 1) depth ((quoted s).toList ++ rest) = some (.str s, rest) := by
  have hs := string?_quoted s rest
  rw [toList_quoted, List.cons_append] at hs ⊢
  rw [value?_quote, hs]
  rfl

/-- Characters that a numeral does not start with: spaces, brackets and what other values start
    with. -/
def marks : List Char := [' ', '\n', '\t', '\r', 'n', 't', 'f', '"', '[', ']', '\x7b']

theorem notMem_marks {c : Char} {r left : List Char} {n : Number}
    (h : numeral? (c :: r) = some (n, left)) : c ∉ marks := by
  rcases numeral?_head h with rfl | hdigit
  · decide
  · have hmarks : marks.all fun d => (digit? d).isNone := rfl
    intro hc
    have hnone : digit? c = none := Option.isNone_iff_eq_none.1 (List.all_eq_true.1 hmarks c hc)
    simp [hnone] at hdigit

theorem isSpace_of_notMem_marks {c : Char} (h : c ∉ marks) : isSpace c = false := by
  simp only [marks, List.mem_cons, not_or] at h
  simp [isSpace, h]

theorem value?_numeral {c : Char} {r left : List Char} {n : Number}
    (h : numeral? (c :: r) = some (n, left)) :
    value? (fuel + 1) depth (c :: r) = some (.num n, left) := by
  have hc := notMem_marks h
  rw [value?, skipSpace_cons (isSpace_of_notMem_marks hc)]
  split
  case h_7 => rw [h]; rfl
  -- the other alternatives start with a mark
  all_goals
    rename_i heq
    cases heq
    simp [marks] at hc

theorem value?_arr_nil :
    value? (fuel + 1) (depth + 1) ('[' :: ']' :: rest) = some (.arr [], rest) :=
  rfl

theorem value?_arr {c : Char} (hspace : isSpace c = false) (hc : c ≠ ']') (r : List Char) :
    value? (fuel + 1) (depth + 1) ('[' :: c :: r) =
      (items? fuel depth (c :: r)).map fun (vs, r') => (.arr vs, r') := by
  rw [value?, skipSpace_cons rfl]
  split
  case h_5 heq =>
    cases heq
    rw [if_neg (Nat.succ_ne_zero _), skipSpace_cons hspace]
    split
    · rename_i heq
      exact absurd (List.cons.inj heq).1 hc
    · rfl
  case h_7 hno _ => exact absurd rfl (hno _)
  all_goals
    rename_i heq
    cases heq

theorem value?_obj_nil :
    value? (fuel + 1) (depth + 1) ('\x7b' :: '\x7d' :: rest) = some (.obj [], rest) :=
  rfl

theorem value?_obj (r : List Char) :
    value? (fuel + 1) (depth + 1) ('\x7b' :: '"' :: r) =
      (members? fuel depth ('"' :: r)).map fun (ms, r') => (.obj ms, r') :=
  rfl

/-! Items and members by what follows the first value -/

section

variable {s r r' : List Char} {k : String} {v : Json}

theorem items?_comma (h : value? fuel depth s = some (v, ',' :: r)) :
    items? (fuel + 1) depth s = (items? fuel depth r).map fun (vs, r') => (v :: vs, r') := by
  rw [items?, h]
  rfl

theorem items?_last (h : value? fuel depth s = some (v, ']' :: r)) :
    items? (fuel + 1) depth s = some ([v], r) := by
  rw [items?, h]
  rfl

theorem key?_quoted (k : String) (r : List Char) :
    key? ((quoted k).toList ++ ':' :: r) = some (k, r) := by
  have hk := string?_quoted k (':' :: r)
  rw [toList_quoted, List.cons_append] at hk ⊢
  rw [key?, skipSpace_cons rfl, hk]
  rfl

theorem members?_comma (hk : key? s = some (k, r)) (h : value? fuel depth r = some (v, ',' :: r')) :
    members? (fuel + 1) depth s =
      (members? fuel depth r').map fun (ms, t) => ((k, v) :: ms, t) := by
  rw [members?, hk]
  dsimp only
  rw [h]
  rfl

theorem members?_last (hk : key? s = some (k, r))
    (h : value? fuel depth r = some (v, '\x7d' :: r')) :
    members? (fuel + 1) depth s = some ([(k, v)], r') := by
  rw [members?, hk]
  dsimp only
  rw [h]
  rfl

end

end Reader

theorem Number.ReadsBack.exists_cons {n : Number} (h : n.ReadsBack) :
    ∃ c r, n.text.toList = c :: r ∧ c ∉ Reader.marks := by
  unfold ReadsBack at h
  cases htext : n.text.toList with
  | nil => simp [htext, numeral?, unsigned?, gather] at h
  | cons c r => exact ⟨c, r, rfl, Reader.notMem_marks (htext ▸ h)⟩

/-- The text of a value does not start with space or with a closing bracket. -/
theorem IsReadable.compact_head {v : Json} (h : v.IsReadable) :
    ∃ c r, v.compact.toList = c :: r ∧ Reader.isSpace c = false ∧ c ≠ ']' := by
  cases h with
  | null => exact ⟨'n', _, rfl, rfl, by decide⟩
  | @bool b => cases b <;> exact ⟨_, _, rfl, rfl, by decide⟩
  | num h =>
    obtain ⟨c, r, htext, hc⟩ := h.exists_cons
    refine ⟨c, r, htext, Reader.isSpace_of_notMem_marks hc, ?_⟩
    rintro rfl
    exact hc (by decide)
  | str => exact ⟨'"', _, Reader.toList_quoted _, rfl, by decide⟩
  | arr => exact ⟨'[', _, toList_compact_arr _, rfl, by decide⟩
  | obj => exact ⟨'\x7b', _, toList_compact_obj _, rfl, by decide⟩

theorem itemsText_head {items : List Json} (hne : items ≠ []) (h : ∀ v ∈ items, v.IsReadable) :
    ∃ c r, itemsText items = c :: r ∧ Reader.isSpace c = false ∧ c ≠ ']' := by
  cases items with
  | nil => exact absurd rfl hne
  | cons v r =>
    obtain ⟨c, r', htext, hc⟩ := (h v List.mem_cons_self).compact_head
    cases r with
    | nil => exact ⟨c, _, by rw [itemsText, htext, List.cons_append], hc⟩
    | cons w r => exact ⟨c, _, by rw [itemsText, htext, List.cons_append], hc⟩

theorem membersText_head {members : List (String × Json)} (hne : members ≠ []) :
    ∃ r, membersText members = '"' :: r := by
  match members with
  | [(k, v)] => exact ⟨_, by rw [membersText, memberText, Reader.toList_quoted]; rfl⟩
  | (k, v) :: m :: r => exact ⟨_, by rw [membersText, memberText, Reader.toList_quoted]; rfl⟩

theorem stops_comma {r : List Char} : Stops (',' :: r) := stops_cons (by decide)

theorem stops_bracket {r : List Char} : Stops (']' :: r) := stops_cons (by decide)

theorem stops_brace {r : List Char} : Stops ('\x7d' :: r) := stops_cons (by decide)

open Reader

/-- Whether a value is read back from its text in front of what cannot continue a numeral. Two steps
    for each character suffice: a container takes one, which its bracket pays for, and an item one,
    which the sign behind it pays for. -/
def Reads (v : Json) : Prop :=
  ∀ ⦃fuel depth : Nat⦄ ⦃rest : List Char⦄, v.nesting ≤ depth →
    2 * v.compact.toList.length ≤ fuel → Stops rest →
    value? fuel depth (v.compact.toList ++ rest) = some (v, rest)

theorem exists_fuel {n fuel : Nat} (hn : 0 < n) (h : 2 * n ≤ fuel) : ∃ f, fuel = f + 1 :=
  ⟨fuel - 1, by omega⟩

theorem items?_text {items : List Json} (hne : items ≠ []) (h : ∀ v ∈ items, v.Reads)
    {fuel depth : Nat} (hdepth : nestingOfItems items ≤ depth)
    (hfuel : 2 * (itemsText items).length ≤ fuel) (rest : List Char) :
    items? fuel depth (itemsText items ++ rest) = some (items, rest) := by
  induction items generalizing fuel with
  | nil => exact absurd rfl hne
  | cons v r ih =>
    have hnesting : v.nesting ≤ depth := Nat.le_trans (Nat.le_max_left ..) hdepth
    cases r with
    | nil =>
      rw [itemsText, List.length_append, List.length_singleton] at hfuel
      obtain ⟨fuel, rfl⟩ := exists_fuel (by omega) hfuel
      have hv : value? fuel depth (v.compact.toList ++ ']' :: rest) = some (v, ']' :: rest) :=
        h v (by simp) hnesting (by omega) stops_bracket
      rw [itemsText, List.append_assoc]
      exact items?_last hv
    | cons w r =>
      rw [itemsText, List.length_append, List.length_cons] at hfuel
      obtain ⟨fuel, rfl⟩ := exists_fuel (by omega) hfuel
      have hv : value? fuel depth (v.compact.toList ++ ',' :: (itemsText (w :: r) ++ rest)) =
          some (v, ',' :: (itemsText (w :: r) ++ rest)) :=
        h v (by simp) hnesting (by omega) stops_comma
      have hr : items? fuel depth (itemsText (w :: r) ++ rest) = some (w :: r, rest) :=
        ih (by simp) (fun v hv => h v (List.mem_cons_of_mem _ hv))
          (Nat.le_trans (Nat.le_max_right ..) hdepth) (by omega)
      rw [itemsText, List.append_assoc, List.cons_append, items?_comma hv, hr]
      rfl

theorem members?_text {members : List (String × Json)} (hne : members ≠ [])
    (h : ∀ m ∈ members, m.2.Reads) {fuel depth : Nat} (hdepth : nestingOfMembers members ≤ depth)
    (hfuel : 2 * (membersText members).length ≤ fuel) (rest : List Char) :
    members? fuel depth (membersText members ++ rest) = some (members, rest) := by
  induction members generalizing fuel with
  | nil => exact absurd rfl hne
  | cons head r ih =>
    obtain ⟨k, v⟩ := head
    have hreads : v.Reads := h (k, v) (by simp)
    have hnesting : v.nesting ≤ depth := Nat.le_trans (Nat.le_max_left ..) hdepth
    cases r with
    | nil =>
      simp only [membersText, memberText, List.length_append, List.length_cons] at hfuel
      obtain ⟨fuel, rfl⟩ := exists_fuel (by omega) hfuel
      have hv : value? fuel depth (v.compact.toList ++ '\x7d' :: rest) =
          some (v, '\x7d' :: rest) :=
        hreads hnesting (by omega) stops_brace
      rw [membersText, memberText, List.append_assoc, List.append_assoc, List.cons_append]
      exact members?_last (key?_quoted ..) hv
    | cons m r =>
      simp only [membersText, memberText, List.length_append, List.length_cons] at hfuel
      obtain ⟨fuel, rfl⟩ := exists_fuel (by omega) hfuel
      have hv : value? fuel depth (v.compact.toList ++ ',' :: (membersText (m :: r) ++ rest)) =
          some (v, ',' :: (membersText (m :: r) ++ rest)) :=
        hreads hnesting (by omega) stops_comma
      have hr : members? fuel depth (membersText (m :: r) ++ rest) = some (m :: r, rest) :=
        ih (by simp) (fun m hm => h m (List.mem_cons_of_mem _ hm))
          (Nat.le_trans (Nat.le_max_right ..) hdepth) (by omega)
      rw [membersText, memberText, List.append_assoc, List.append_assoc, List.cons_append,
        List.cons_append, members?_comma (key?_quoted ..) hv, hr]
      rfl

theorem reads_num {n : Number} (h : n.ReadsBack) : (Json.num n).Reads := by
  intro fuel depth rest _ hfuel hrest
  obtain ⟨c, r, htext, -⟩ := h.exists_cons
  have hread : numeral? (n.text.toList ++ rest) = some (n, [] ++ rest) := numeral?_append hrest h
  change 2 * n.text.toList.length ≤ fuel at hfuel
  change value? fuel depth (n.text.toList ++ rest) = _
  rw [htext] at hread hfuel ⊢
  obtain ⟨fuel, rfl⟩ := exists_fuel (Nat.succ_pos _) hfuel
  exact value?_numeral hread

theorem reads_arr {items : List Json} (hreadable : ∀ v ∈ items, v.IsReadable)
    (h : ∀ v ∈ items, v.Reads) : (Json.arr items).Reads := by
  intro fuel depth rest hdepth hfuel _
  obtain ⟨depth, rfl⟩ : ∃ d, depth = d + 1 := ⟨depth - 1, by rw [nesting] at hdepth; omega⟩
  rw [toList_compact_arr] at hfuel ⊢
  obtain ⟨fuel, rfl⟩ := exists_fuel (Nat.succ_pos _) hfuel
  by_cases hne : items = []
  · subst hne
    exact value?_arr_nil
  · obtain ⟨c, r, htext, hspace, hc⟩ := itemsText_head hne hreadable
    have hitems : items? fuel depth (itemsText items ++ rest) = some (items, rest) :=
      items?_text hne h (Nat.le_of_succ_le_succ hdepth) (by rw [List.length_cons] at hfuel; omega)
        rest
    rw [htext] at hitems
    rw [htext, List.cons_append, List.cons_append, value?_arr hspace hc, ← List.cons_append, hitems]
    rfl

theorem reads_obj {members : List (String × Json)} (h : ∀ m ∈ members, m.2.Reads) :
    (Json.obj members).Reads := by
  intro fuel depth rest hdepth hfuel _
  obtain ⟨depth, rfl⟩ : ∃ d, depth = d + 1 := ⟨depth - 1, by rw [nesting] at hdepth; omega⟩
  rw [toList_compact_obj] at hfuel ⊢
  obtain ⟨fuel, rfl⟩ := exists_fuel (Nat.succ_pos _) hfuel
  by_cases hne : members = []
  · subst hne
    exact value?_obj_nil
  · obtain ⟨r, htext⟩ := membersText_head hne
    have hmembers : members? fuel depth (membersText members ++ rest) = some (members, rest) :=
      members?_text hne h (Nat.le_of_succ_le_succ hdepth) (by rw [List.length_cons] at hfuel; omega)
        rest
    rw [htext] at hmembers
    rw [htext, List.cons_append, List.cons_append, value?_obj, ← List.cons_append, hmembers]
    rfl

theorem IsReadable.length_pos {v : Json} (h : v.IsReadable) : 0 < v.compact.toList.length := by
  obtain ⟨c, r, htext, -⟩ := h.compact_head
  simp [htext]

theorem IsReadable.reads {v : Json} (h : v.IsReadable) : v.Reads := by
  induction h with
  | null =>
    intro fuel depth rest _ hfuel _
    obtain ⟨fuel, rfl⟩ := exists_fuel IsReadable.null.length_pos hfuel
    exact value?_null
  | @bool b =>
    intro fuel depth rest _ hfuel _
    obtain ⟨fuel, rfl⟩ := exists_fuel IsReadable.bool.length_pos hfuel
    exact value?_bool b
  | @str s =>
    intro fuel depth rest _ hfuel _
    obtain ⟨fuel, rfl⟩ := exists_fuel IsReadable.str.length_pos hfuel
    exact value?_quoted s
  | num h => exact reads_num h
  | arr h ih => exact reads_arr h ih
  | obj _ ih => exact reads_obj ih

/-- A value that is written is read back from its text. -/
theorem parse?_compact {v : Json} (h : v.IsReadable) (hdepth : v.nesting ≤ Reader.maxDepth) :
    parse? v.compact = some v := by
  have hread : value? (2 * v.compact.toList.length + 2) maxDepth (v.compact.toList ++ []) =
      some (v, []) :=
    h.reads hdepth (by omega) stops_nil
  rw [List.append_nil] at hread
  unfold parse?
  simp only [hread]
  rfl

theorem HasDistinctKeys.isReadable {v : Json} (h : v.HasDistinctKeys)
    (hreadable : v.canonical.IsReadable) : v.IsReadable := by
  induction h with
  | null => exact .null
  | bool => exact .bool
  | str => exact .str
  | num => exact hreadable
  | arr _ ih =>
    rw [canonical_arr] at hreadable
    cases hreadable with
    | arr hitems => exact .arr fun v hv => ih v hv (hitems _ (List.mem_map_of_mem hv))
  | obj hkeys _ ih =>
    rw [canonical_obj] at hreadable
    cases hreadable with
    | obj hmembers =>
      refine .obj fun m hm => ih m hm (hmembers (m.1, m.2.canonical) (Members.mem_of_get? ?_))
      rw [get?_canonical hkeys, hkeys.get?_of_mem hm]
      rfl

theorem Rearranges.isReadable {v w : Json} (h : v.Rearranges w) (hw : w.IsReadable) :
    v.IsReadable :=
  h.hasDistinctKeys.isReadable (h.canonical_eq ▸ hw)

/-- Whether a reader gives a result back from what is written for it: from the value and from its
    text, with the members in whatever order. -/
structure Reread {α : Type} (f : Json → Option α) (x : α) (w : Json) : Prop where
  isCanonical : w.IsCanonical
  value : Decodes f x w
  text : w.IsReadable → ∀ v : Json, v.Rearranges w → v.nesting ≤ maxDepth →
    (parse? v.compact).bind f = some x

theorem Decodes.reread {α : Type} {f : Json → Option α} {x : α} {w : Json} (h : Decodes f x w)
    (hw : w.IsCanonical) : Reread f x w := by
  refine ⟨hw, h, fun hreadable v hv hnesting => ?_⟩
  rw [parse?_compact (hv.isReadable hreadable) hnesting]
  exact h hv

/-- Whether a value is in canonical form and holds no numbers. -/
inductive IsPlain : Json → Prop
  | null : IsPlain .null
  | bool {b : Bool} : IsPlain (.bool b)
  | str {s : String} : IsPlain (.str s)
  | arr {items : List Json} (h : ∀ v ∈ items, IsPlain v) : IsPlain (.arr items)
  | obj {members : Members} (hsorted : members.IsSorted) (h : ∀ m ∈ members, IsPlain m.2) :
    IsPlain (.obj members)

theorem IsPlain.isCanonical {v : Json} (h : v.IsPlain) : v.IsCanonical := by
  induction h with
  | null => exact isCanonical_null
  | bool => exact isCanonical_bool _
  | str => exact isCanonical_str _
  | arr _ ih => exact isCanonical_arr ih
  | obj hsorted _ ih => exact isCanonical_obj.2 ⟨hsorted, ih⟩

theorem IsPlain.isReadable {v : Json} (h : v.IsPlain) : v.IsReadable := by
  induction h with
  | null => exact .null
  | bool => exact .bool
  | str => exact .str
  | arr _ ih => exact .arr ih
  | obj _ _ ih => exact .obj ih

end Harvest.Json
