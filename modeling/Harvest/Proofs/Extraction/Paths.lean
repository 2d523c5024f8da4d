import Harvest.Proofs.Job.RoundTrip
/-!
Objects and the paths into them. A value that is put at a key is read there; whatever stands aside of
the key stays as it is, what stands on the way to it is entered if it is an object and gives way to
one if it is not, and only what stands at the key or below it is replaced. Values at keys that do
not lie on one path can be put in any order.
-/

namespace Harvest

open Extraction

namespace Members

variable {m : Members} {key other : String} {value second : Json}

/-- Of two values that are put at a key the second one counts. -/
theorem insert_insert_self (key : String) (value second : Json) (m : Members) :
    insert key second (insert key value m) = insert key second m := by
  induction m with
  | nil => simp [insert]
  | cons head rest ih =>
    obtain ⟨k, v⟩ := head
    by_cases hlt : key < k
    · simp [insert, hlt]
    · by_cases heq : key = k
      · subst heq
        simp [insert]
      · simp only [insert, if_neg hlt, if_neg heq, ih]

theorem IsSorted.insert_comm (h : IsSorted m) (hne : key ≠ other) :
    Members.insert key value (Members.insert other second m) =
      Members.insert other second (Members.insert key value m) := by
  refine h.insert.insert.ext h.insert.insert fun k => ?_
  by_cases hk : k = key
  · subst hk
    rw [get?_insert_self, get?_insert_of_ne hne, get?_insert_self]
  · rw [get?_insert_of_ne hk]
    by_cases ho : k = other
    · subst ho
      rw [get?_insert_self, get?_insert_self]
    · rw [get?_insert_of_ne ho, get?_insert_of_ne ho, get?_insert_of_ne hk]

end Members

/-- What stands at a path inside of a value. Only objects can be entered. -/
def Json.at? : List String → Json → Option Json
  | [], v => some v
  | part :: rest, v => ((membersOf (some v)).get? part).bind (Json.at? rest)

/-- What stands at a key of an object. -/
def Members.read? (m : Members) (key : String) : Option Json := Json.at? (keyParts key) (.obj m)

namespace Extraction

section

variable {m : Members} {parts path rest : List String} {part : String} {v w u : Json}

theorem at?_cons (part : String) (rest : List String) (m : Members) :
    Json.at? (part :: rest) (.obj m) = (m.get? part).bind (Json.at? rest) := rfl

@[simp] theorem membersOf_some_obj (m : Members) : membersOf (some (.obj m)) = m := rfl

/-- What is no object holds as much as an empty one. -/
theorem at?_membersOf (hpath : path ≠ []) (o : Option Json) :
    Json.at? path (.obj (membersOf o)) = o.bind (Json.at? path) := by
  cases path with
  | nil => exact absurd rfl hpath
  | cons part rest => cases o <;> rfl

theorem membersOf_at? (path : List String) (o : Option Json) :
    membersOf (Json.at? path (.obj (membersOf o))) = membersOf (o.bind (Json.at? path)) := by
  cases path with
  | nil =>
    cases o with
    | none => rfl
    | some v => cases v <;> rfl
  | cons part rest => rw [at?_membersOf (List.cons_ne_nil part rest)]

theorem insertAt_cons (part : String) (hrest : rest ≠ []) (v : Json) (m : Members) :
    insertAt (part :: rest) v m =
      Members.insert part (.obj (insertAt rest v (membersOf (m.get? part)))) m := by
  cases rest with
  | nil => exact absurd rfl hrest
  | cons next rest => rfl

/-! What is read behind an insertion -/

/-- Where the path of an insertion ends, and below, there is the new value. -/
theorem at?_insertAt_append (hparts : parts ≠ []) (rest : List String) (v : Json) (m : Members) :
    Json.at? (parts ++ rest) (.obj (insertAt parts v m)) = Json.at? rest v := by
  induction parts generalizing m with
  | nil => exact absurd rfl hparts
  | cons part tail ih =>
    rw [List.cons_append, at?_cons]
    by_cases htail : tail = []
    · subst htail
      rw [insertAt, Members.get?_insert_self]
      rfl
    · rw [insertAt_cons part htail, Members.get?_insert_self]
      exact ih htail _

/-- On the way of an insertion there is an object, which holds what was there before. -/
theorem at?_insertAt_of_append (hrest : rest ≠ []) (path : List String) (v : Json) (m : Members) :
    Json.at? path (.obj (insertAt (path ++ rest) v m)) =
      some (.obj (insertAt rest v (membersOf (Json.at? path (.obj m))))) := by
  induction path generalizing m with
  | nil => rfl
  | cons part tail ih =>
    have hne : tail ++ rest ≠ [] := List.append_ne_nil_of_right_ne_nil tail hrest
    rw [List.cons_append, insertAt_cons part hne, at?_cons, at?_cons, Members.get?_insert_self,
      Option.bind_some, ih, membersOf_at?]

/-- Aside of the path of an insertion everything is as it was. -/
theorem at?_insertAt_aside (hparts : ¬ parts <+: path) (hpath : ¬ path <+: parts) (v : Json)
    (m : Members) : Json.at? path (.obj (insertAt parts v m)) = Json.at? path (.obj m) := by
  induction parts generalizing path m with
  | nil => exact absurd List.nil_prefix hparts
  | cons part tail ih =>
    cases path with
    | nil => exact absurd List.nil_prefix hpath
    | cons k rest =>
      rw [at?_cons, at?_cons]
      by_cases hk : k = part
      · subst hk
        have hparts : ¬ tail <+: rest := fun h => hparts (List.cons_prefix_cons.2 ⟨rfl, h⟩)
        have hpath : ¬ rest <+: tail := fun h => hpath (List.cons_prefix_cons.2 ⟨rfl, h⟩)
        have htail : tail ≠ [] := fun h => hparts (h ▸ List.nil_prefix)
        have hrest : rest ≠ [] := fun h => hpath (h ▸ List.nil_prefix)
        rw [insertAt_cons k htail, Members.get?_insert_self, Option.bind_some, ih hparts hpath,
          at?_membersOf hrest]
      · congr 1
        by_cases htail : tail = []
        · subst htail
          exact Members.get?_insert_of_ne hk v m
        · rw [insertAt_cons part htail]
          exact Members.get?_insert_of_ne hk _ m

/-! Two insertions -/

theorem insertAt_insertAt (parts : List String) (v w : Json) (m : Members) :
    insertAt parts w (insertAt parts v m) = insertAt parts w m := by
  induction parts generalizing m with
  | nil => rfl
  | cons part tail ih =>
    by_cases htail : tail = []
    · subst htail
      exact Members.insert_insert_self part v w m
    · simp only [insertAt_cons part htail, Members.get?_insert_self,
        membersOf_some_obj, ih, Members.insert_insert_self]

/-- The member that an insertion changes. -/
theorem insertAt_eq_insert (part : String) (tail : List String) (v : Json) (m : Members) :
    ∃ value, ∀ n : Members, n.get? part = m.get? part →
      insertAt (part :: tail) v n = Members.insert part value n := by
  by_cases htail : tail = []
  · subst htail
    exact ⟨v, fun n _ => rfl⟩
  · refine ⟨.obj (insertAt tail v (membersOf (m.get? part))), fun n hn => ?_⟩
    rw [insertAt_cons part htail, hn]

theorem insertAt_comm (hm : m.IsCanonical) (hparts : ¬ parts <+: path) (hpath : ¬ path <+: parts)
    (v w : Json) : insertAt path w (insertAt parts v m) = insertAt parts v (insertAt path w m) := by
  induction parts generalizing path m with
  | nil => exact absurd List.nil_prefix hparts
  | cons part tail ih =>
    cases path with
    | nil => exact absurd List.nil_prefix hpath
    | cons k rest =>
      by_cases hk : k = part
      · subst hk
        have hparts : ¬ tail <+: rest := fun h => hparts (List.cons_prefix_cons.2 ⟨rfl, h⟩)
        have hpath : ¬ rest <+: tail := fun h => hpath (List.cons_prefix_cons.2 ⟨rfl, h⟩)
        have htail : tail ≠ [] := fun h => hparts (h ▸ List.nil_prefix)
        have hrest : rest ≠ [] := fun h => hpath (h ▸ List.nil_prefix)
        simp only [insertAt_cons k htail, insertAt_cons k hrest, Members.get?_insert_self,
          membersOf_some_obj, Members.insert_insert_self,
          ih (isCanonical_membersOf hm k) hparts hpath]
      -- neither insertion touches the member that the other one changes
      · obtain ⟨x, hx⟩ := insertAt_eq_insert part tail v m
        obtain ⟨y, hy⟩ := insertAt_eq_insert k rest w m
        have hk' : part ≠ k := Ne.symm hk
        rw [hx m rfl, hy m rfl, hx _ (Members.get?_insert_of_ne hk' y m),
          hy _ (Members.get?_insert_of_ne hk x m)]
        exact (Json.isCanonical_obj.1 hm).1.insert_comm hk

end

/-! What becomes of the values that were there -/

/-- What has become of a value at a path when another one was put in. -/
inductive Becomes (parts : List String) (v : Json) (path : List String) : Json → Option Json → Prop
  | kept {u : Json} : Becomes parts v path u (some u)
  /-- It stands where the new value is put, or below. -/
  | replaced {u : Json} (new : Option Json) : parts <+: path → Becomes parts v path u new
  /-- It stands on the way, and the value is put inside of it. -/
  | entered {m : Members} {rest : List String} : path ++ rest = parts → rest ≠ [] →
      Becomes parts v path (.obj m) (some (.obj (insertAt rest v m)))
  /-- It stands on the way and is no object, so that one takes its place. -/
  | displaced {u : Json} {rest : List String} : path ++ rest = parts → rest ≠ [] →
      (∀ m, u ≠ .obj m) → Becomes parts v path u (some (.obj (insertAt rest v [])))

theorem becomes_insertAt {m : Members} {parts path : List String} {u : Json} (v : Json)
    (h : Json.at? path (.obj m) = some u) :
    Becomes parts v path u (Json.at? path (.obj (insertAt parts v m))) := by
  by_cases hparts : parts <+: path
  · exact .replaced _ hparts
  · by_cases hpath : path <+: parts
    · obtain ⟨rest, hrest⟩ := hpath
      have hne : rest ≠ [] := by
        rintro rfl
        rw [List.append_nil] at hrest
        exact hparts (hrest ▸ List.prefix_rfl)
      rw [← hrest, at?_insertAt_of_append hne, h, hrest]
      cases u with
      | obj inner => exact .entered hrest hne
      | null | bool | num | str | arr => exact .displaced hrest hne nofun
    · rw [at?_insertAt_aside hparts hpath, h]
      exact .kept

/-- At the paths of keys there are leaves and objects. -/
theorem Fits.at? {keys : List (List String)} {path rest : List String} {v u : Json}
    (h : Fits keys path v) (hu : Json.at? rest v = some u) : u.IsLeaf ∨ ∃ m, u = .obj m := by
  induction rest generalizing path v with
  | nil =>
    obtain rfl := Option.some.inj hu
    cases h with
    | leaf _ hleaf => exact .inl hleaf
    | inside => exact .inr ⟨_, rfl⟩
  | cons part rest ih =>
    obtain ⟨w, hw, hrest⟩ := Option.bind_eq_some_iff.1 hu
    cases h with
    | leaf _ hleaf =>
      cases v with
      | obj => exact hleaf.elim
      | _ => cases hw
    | inside _ hinside => exact ih (hinside part w (Members.mem_of_get? hw)) hrest

/-- The values that some extractors put into an object are leaves. -/
theorem leaf_or_object_of_extractAll {c : Transform.Context} {place : Html.Place}
    {extractors : List Resource.Extractor} {m : Members}
    (h : (extractAll c place extractors []).result = .ok m) {path : List String} {u : Json}
    (hu : Json.at? path (.obj m) = some u) : u.IsLeaf ∨ ∃ m, u = .obj m := by
  obtain ⟨hbelow, -⟩ :=
    extractAll_gives c place extractors below_nil (List.Subset.refl (keysOf extractors)) m h
  cases path with
  | nil => exact .inr ⟨m, (Option.some.inj hu).symm⟩
  | cons part rest =>
    obtain ⟨w, hw, hrest⟩ := Option.bind_eq_some_iff.1 hu
    exact (hbelow part w (Members.mem_of_get? hw)).at? hrest

end Extraction
end Harvest
