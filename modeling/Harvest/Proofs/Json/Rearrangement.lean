import Harvest.Proofs.Json.Members
import Harvest.Json.Decode
/-!
The order of members. A value that repeats no key rearranges its canonical form; what is read from
its fields, its kind and its items is what the canonical form holds there. A reader decodes a value
if it gives the same for everything that rearranges it.
-/

namespace Harvest

namespace Json

open Members

/-- Whether no object inside of a value repeats a key. -/
inductive HasDistinctKeys : Json → Prop
  | null : HasDistinctKeys .null
  | bool {b : Bool} : HasDistinctKeys (.bool b)
  | num {n : Number} : HasDistinctKeys (.num n)
  | str {s : String} : HasDistinctKeys (.str s)
  | arr {items : List Json} (h : ∀ v ∈ items, HasDistinctKeys v) : HasDistinctKeys (.arr items)
  | obj {members : Members} (hkeys : AreDistinct members)
    (h : ∀ m ∈ members, HasDistinctKeys m.2) : HasDistinctKeys (.obj members)

attribute [simp] HasDistinctKeys.null HasDistinctKeys.bool HasDistinctKeys.num HasDistinctKeys.str

@[simp]
theorem hasDistinctKeys_arr {items : List Json} :
    (arr items).HasDistinctKeys ↔ ∀ v ∈ items, v.HasDistinctKeys :=
  ⟨fun | .arr h => h, .arr⟩

@[simp]
theorem hasDistinctKeys_obj {members : Members} :
    (obj members).HasDistinctKeys ↔ AreDistinct members ∧ ∀ m ∈ members, m.2.HasDistinctKeys :=
  ⟨fun | .obj hkeys h => ⟨hkeys, h⟩, fun ⟨hkeys, h⟩ => .obj hkeys h⟩

/-- Whether a value is a canonical one but for the order of the members inside of it. -/
structure Rearranges (v w : Json) : Prop where
  hasDistinctKeys : v.HasDistinctKeys
  canonical_eq : v.canonical = w

variable {items : List Json} {members ms : Members} {v w : Json} {name : String}

theorem canonicalItems_eq (items : List Json) : canonicalItems items = items.map canonical := by
  induction items with
  | nil => rfl
  | cons v r ih => rw [canonicalItems, ih, List.map_cons]

theorem canonicalMembers_eq (members : Members) :
    canonicalMembers members = members.map fun m => (m.1, m.2.canonical) := by
  induction members with
  | nil => rfl
  | cons m r ih => rw [canonicalMembers, ih, List.map_cons]

theorem canonical_arr : (arr items).canonical = .arr (items.map canonical) := by
  rw [canonical, canonicalItems_eq]

theorem canonical_obj :
    (obj members).canonical = .obj (ofList (members.map fun m => (m.1, m.2.canonical))) := by
  rw [canonical, canonicalMembers_eq]

theorem get?_canonical (h : AreDistinct members) (name : String) :
    (ofList (members.map fun m => (m.1, m.2.canonical))).get? name =
      (members.get? name).map canonical := by
  have hdistinct : AreDistinct (members.map fun m => (m.1, m.2.canonical)) := List.pairwise_map.2 h
  rw [hdistinct.get?_ofList, get?_map]

theorem Rearranges.null (h : v.Rearranges .null) : v = .null := by
  obtain ⟨-, h⟩ := h
  cases v <;> cases h
  rfl

theorem Rearranges.bool {b : Bool} (h : v.Rearranges (.bool b)) : v = .bool b := by
  obtain ⟨-, h⟩ := h
  cases v <;> cases h
  rfl

theorem Rearranges.str {s : String} (h : v.Rearranges (.str s)) : v = .str s := by
  obtain ⟨-, h⟩ := h
  cases v <;> cases h
  rfl

theorem Rearranges.arr {ws : List Json} (h : v.Rearranges (.arr ws)) :
    ∃ items, v = .arr items ∧ (∀ i ∈ items, i.HasDistinctKeys) ∧ items.map canonical = ws := by
  obtain ⟨hdistinct, heq⟩ := h
  cases hdistinct with
  | arr hitems =>
    rw [canonical_arr] at heq
    exact ⟨_, rfl, hitems, Json.arr.inj heq⟩
  | _ => cases heq

/-! Depth -/

theorem depthOfItems_le {n : Nat} : depthOfItems items ≤ n ↔ ∀ v ∈ items, v.depth ≤ n := by
  induction items with
  | nil => simp [depthOfItems]
  | cons v r ih => rw [depthOfItems, Nat.max_le, ih, List.forall_mem_cons]

theorem depthOfMembers_le {n : Nat} :
    depthOfMembers members ≤ n ↔ ∀ m ∈ members, m.2.depth ≤ n := by
  induction members with
  | nil => simp [depthOfMembers]
  | cons m r ih => rw [depthOfMembers, Nat.max_le, ih, List.forall_mem_cons]

theorem depth_lt_arr (h : v ∈ items) : v.depth < (arr items).depth :=
  Nat.lt_succ_of_le (depthOfItems_le.1 (Nat.le_refl _) v h)

theorem depth_lt_obj (h : (name, v) ∈ members) : v.depth < (obj members).depth :=
  Nat.lt_succ_of_le (depthOfMembers_le.1 (Nat.le_refl _) _ h)

theorem HasDistinctKeys.depth_canonical_le (h : v.HasDistinctKeys) :
    v.canonical.depth ≤ v.depth := by
  induction h with
  | null => exact Nat.le_refl _
  | bool => exact Nat.le_refl _
  | num => exact Nat.le_refl _
  | str => exact Nat.le_refl _
  | arr _ ih =>
    rw [canonical_arr]
    refine Nat.succ_le_succ (depthOfItems_le.2 fun w hw => ?_)
    obtain ⟨v, hv, rfl⟩ := List.mem_map.1 hw
    exact Nat.le_trans (ih v hv) (Nat.le_of_lt_succ (depth_lt_arr hv))
  | obj _ _ ih =>
    rw [canonical_obj]
    refine Nat.succ_le_succ (depthOfMembers_le.2 fun m hm => ?_)
    obtain ⟨⟨name, v⟩, hv, rfl⟩ := List.mem_map.1 (mem_of_mem_ofList hm)
    exact Nat.le_trans (ih _ hv) (Nat.le_of_lt_succ (depth_lt_obj hv))

theorem Rearranges.depth_le (h : v.Rearranges w) : w.depth ≤ v.depth :=
  h.canonical_eq ▸ h.hasDistinctKeys.depth_canonical_le

/-! The fields of a record -/

/-- What stands for a field of an object. -/
def fieldOf (members : Members) (name : String) : Field :=
  match members.get? name with
  | some v => .given v
  | none => .absent

/-- Whether a field is a member but for the order inside of it, or there is neither. -/
def Field.Shows : Field → Option Json → Prop
  | .given v, some w => v.Rearranges w
  | .absent, none => True
  | _, _ => False

/-- Whether a value is an object with the given members but for their order. -/
structure Holds (v : Json) (ms : Members) (members : Members) : Prop where
  eq : v = .obj members
  areDistinct : AreDistinct members
  shows : ∀ name, (fieldOf members name).Shows (ms.get? name)

theorem Rearranges.holds (h : v.Rearranges (.obj (ofList ms))) (hms : AreDistinct ms) :
    ∃ members, v.Holds ms members := by
  obtain ⟨hdistinct, heq⟩ := h
  cases hdistinct with
  | @obj members hkeys hvalues =>
    rw [canonical_obj] at heq
    refine ⟨members, rfl, hkeys, fun name => ?_⟩
    have hget : (members.get? name).map canonical = ms.get? name := by
      rw [← get?_canonical hkeys, Json.obj.inj heq, hms.get?_ofList]
    unfold fieldOf
    cases hname : members.get? name with
    | none =>
      rw [hname] at hget
      rw [← hget]
      trivial
    | some x =>
      rw [hname] at hget
      rw [← hget]
      exact ⟨hvalues _ (mem_of_get? hname), rfl⟩
  | _ => cases heq

theorem isRepeated_eq_false (h : AreDistinct members) (name : String) :
    isRepeated name members = false := by
  have hfilter : AreDistinct (members.filter fun m => m.1 = name) := h.filter _
  have hname : ∀ m ∈ members.filter fun m => m.1 = name, m.1 = name := by simp
  unfold isRepeated
  generalize members.filter (fun m => m.1 = name) = found at hfilter hname ⊢
  match found with
  | [] => rfl
  | [_] => rfl
  | a :: b :: _ =>
    have hne : a.1 ≠ b.1 := (List.pairwise_cons.1 hfilter).1 b List.mem_cons_self
    have ha : a.1 = name := hname a List.mem_cons_self
    have hb : b.1 = name := hname b (List.mem_cons_of_mem _ List.mem_cons_self)
    exact absurd (ha.trans hb.symm) hne

theorem Holds.record? (h : v.Holds ms members) (names : List String) :
    record? names v = some (names.map (fieldOf members)) := by
  have hnone : (names.any fun n => isRepeated n members) = false := by
    simp [isRepeated_eq_false h.areDistinct]
  rw [h.eq, Json.record?, hnone]
  rfl

/-- A kind is read in front of the other members. -/
theorem Holds.tagged? {kind : String} (h : v.Holds (("kind", .str kind) :: ms) members)
    (hms : ms.get? "kind" = none) :
    ∃ content members', tagged? v = some (.named kind, content) ∧ content.Holds ms members' := by
  have hkind : members.get? "kind" = some (.str kind) := by
    have hshows := h.shows "kind"
    unfold fieldOf at hshows
    cases hget : members.get? "kind" with
    | none => simp [hget, Members.get?, Field.Shows] at hshows
    | some x =>
      simp only [hget, Members.get?, Field.Shows, if_true] at hshows
      rw [hshows.str]
  refine ⟨.obj (members.filter fun m => m.1 ≠ "kind"), _, ?_, rfl, h.areDistinct.filter _, ?_⟩
  · rw [h.eq, Json.tagged?, isRepeated_eq_false h.areDistinct, hkind]
    rfl
  · intro name
    have hshows := h.shows name
    unfold fieldOf at hshows ⊢
    rw [get?_filter fun k => k ≠ "kind"]
    by_cases hname : name = "kind"
    · subst hname
      simp [hms, Field.Shows]
    · simpa [Members.get?, hname, Ne.symm hname] using hshows

/-! Canonical forms -/

/-- Whether no key is repeated and every object is sorted. -/
def IsCanonical (v : Json) : Prop := v.Rearranges v

theorem isCanonical_null : IsCanonical .null := ⟨.null, rfl⟩

theorem isCanonical_bool (b : Bool) : IsCanonical (.bool b) := ⟨.bool, rfl⟩

theorem isCanonical_num (n : Number) : IsCanonical (.num n) := ⟨.num, rfl⟩

theorem isCanonical_str (s : String) : IsCanonical (.str s) := ⟨.str, rfl⟩

theorem isCanonical_arr (h : ∀ v ∈ items, v.IsCanonical) : IsCanonical (.arr items) := by
  refine ⟨.arr fun v hv => (h v hv).hasDistinctKeys, ?_⟩
  rw [canonical_arr, List.map_congr_left fun v hv => (h v hv).canonical_eq, List.map_id']

theorem isCanonical_obj : IsCanonical (.obj members) ↔
    IsSorted members ∧ ∀ m ∈ members, m.2.IsCanonical := by
  constructor
  · rintro ⟨hdistinct, heq⟩
    obtain ⟨hkeys, hvalues⟩ := hasDistinctKeys_obj.1 hdistinct
    rw [canonical_obj] at heq
    have hmembers := Json.obj.inj heq
    refine ⟨hmembers ▸ isSorted_ofList _, fun m hm => ⟨hvalues m hm, ?_⟩⟩
    have hget := get?_canonical hkeys m.1
    rw [hmembers, hkeys.get?_of_mem hm] at hget
    exact (Option.some.inj hget).symm
  · rintro ⟨hsorted, h⟩
    have hmembers : members.map (fun m => (m.1, m.2.canonical)) = members := by
      rw [List.map_congr_left fun m hm => congrArg (m.1, ·) (h m hm).canonical_eq, List.map_id']
    refine ⟨.obj hsorted.areDistinct fun m hm => (h m hm).hasDistinctKeys, ?_⟩
    rw [canonical_obj, hmembers, hsorted.ofList_eq]

mutual

theorem isCanonical_canonical (v : Json) : v.canonical.IsCanonical :=
  match v with
  | .null => isCanonical_null
  | .bool b => isCanonical_bool b
  | .num n => isCanonical_num n
  | .str s => isCanonical_str s
  | .arr items => isCanonical_arr (canonicalItems_areCanonical items)
  | .obj members => isCanonical_obj.2 ⟨isSorted_ofList _, fun m hm =>
      canonicalMembers_areCanonical members m (mem_of_mem_ofList hm)⟩

theorem canonicalItems_areCanonical (items : List Json) :
    ∀ v ∈ canonicalItems items, v.IsCanonical :=
  match items with
  | [] => nofun
  | v :: r => List.forall_mem_cons.2 ⟨isCanonical_canonical v, canonicalItems_areCanonical r⟩

theorem canonicalMembers_areCanonical (members : Members) :
    ∀ m ∈ canonicalMembers members, m.2.IsCanonical :=
  match members with
  | [] => nofun
  | (_, v) :: r => List.forall_mem_cons.2 ⟨isCanonical_canonical v, canonicalMembers_areCanonical r⟩

end

/-! Readers -/

section

variable {α : Type} {f : Json → Option α} {x d : α} {field : Field}

/-- Whether a reader gives a result for everything that rearranges a value. -/
def Decodes (f : Json → Option α) (x : α) (w : Json) : Prop := ∀ ⦃v⦄, v.Rearranges w → f v = some x

theorem decodes_string? (s : String) : Decodes string? s (.str s) := by
  intro v h
  rw [h.str]
  rfl

theorem decodes_bool? (b : Bool) : Decodes bool? b (.bool b) := by
  intro v h
  rw [h.bool]
  rfl

theorem decodes_list? {g : α → Json} {xs : List α} (h : ∀ x ∈ xs, Decodes f x (g x)) :
    Decodes (list? f) xs (.arr (xs.map g)) := by
  intro v hv
  obtain ⟨items, rfl, hitems, heq⟩ := hv.arr
  rw [list?]
  induction items generalizing xs with
  | nil =>
    obtain rfl : xs = [] := List.map_eq_nil_iff.1 heq.symm
    rfl
  | cons v items ih =>
    cases xs with
    | nil => cases heq
    | cons x xs =>
      obtain ⟨hhead, htail⟩ := List.cons.inj heq
      obtain ⟨hv, hitems⟩ := List.forall_mem_cons.1 hitems
      obtain ⟨hx, hxs⟩ := List.forall_mem_cons.1 h
      have hrest : items.mapM f = some xs := ih hxs ⟨.arr hitems, by rw [canonical_arr, htail]⟩
        hitems htail
      rw [List.mapM_cons, hx ⟨hv, hhead⟩, hrest]
      rfl

namespace Field

theorem Shows.given (h : field.Shows (some w)) : ∃ v, field = .given v ∧ v.Rearranges w := by
  cases field with
  | given v => exact ⟨v, rfl, h⟩
  | absent => cases h
  | cut => cases h

theorem Shows.absent (h : field.Shows none) : field = .absent := by
  cases field with
  | given v => cases h
  | absent => rfl
  | cut => cases h

theorem Shows.required (h : field.Shows (some w)) (hf : Decodes f x w) :
    field.required f = some x := by
  obtain ⟨v, rfl, hv⟩ := h.given
  exact hf hv

theorem Shows.required_none (h : field.Shows none) : field.required f = none := by
  rw [h.absent]
  rfl

theorem Shows.orDefault (h : field.Shows (some w)) (hf : Decodes f x w) :
    field.orDefault d f = some x := by
  obtain ⟨v, rfl, hv⟩ := h.given
  exact hf hv

theorem Shows.nullable_null (h : field.Shows (some .null)) : field.nullable f = some none := by
  obtain ⟨v, rfl, hv⟩ := h.given
  rw [hv.null]
  rfl

theorem Shows.nullable_none (h : field.Shows none) : field.nullable f = some none := by
  rw [h.absent]
  rfl

theorem Shows.nullable_some (h : field.Shows (some w)) (hw : w ≠ .null) (hf : Decodes f x w) :
    field.nullable f = some (some x) := by
  obtain ⟨v, rfl, hv⟩ := h.given
  have hnull : v ≠ .null := by
    rintro rfl
    exact hw hv.canonical_eq.symm
  rw [Field.nullable, hf hv]
  · rfl
  · exact hnull

/-- A field that is null when there is no value. -/
theorem Shows.nullable_ofOption {o : Option α} {g : α → Json}
    (h : field.Shows (some (Json.ofOption g o))) (hg : ∀ x, g x ≠ .null)
    (hf : ∀ x, Decodes f x (g x)) : field.nullable f = some o := by
  cases o with
  | none => exact h.nullable_null
  | some x => exact h.nullable_some (hg x) (hf x)

/-- A field that is left out when there is no value. -/
theorem Shows.nullable_map {o : Option α} {g : α → Json} (h : field.Shows (o.map g))
    (hg : ∀ x, g x ≠ .null) (hf : ∀ x, Decodes f x (g x)) : field.nullable f = some o := by
  cases o with
  | none => exact h.nullable_none
  | some x => exact h.nullable_some (hg x) (hf x)

end Field

end

end Json
end Harvest
