import Mathlib.Logic.Relation
import Harvest.Proofs.Json.Rearrangement
import Harvest.Resource.Decode
/-!
Changes that a resource may undergo. What is read of an object depends on what it stands for: of a
record its fields are read, of a tagged value its kind and the fields of that kind. A change adds
other members, puts members into another order or replaces a transformer of an unknown kind,
somewhere inside of a value. What it leaves are the fields of a record, and the kind and the fields
of a tagged value, each of them changed at most.
-/

namespace Harvest.Resource

open Json Members

/-! What is read -/

/-- The tagged values of a resource. -/
inductive Family
  | transformer
  | extractor
  | rule
  | recovery

/-- What a value stands for. -/
inductive Role
  /-- A text or a flag, or something that is not read. -/
  | plain
  /-- A name out of a list, which may be written as an object. -/
  | choice
  | list (item : Role)
  | record (fields : List (String × Role))
  | tagged (family : Family)

/-- The fields of a record in their order, with what they stand for. -/
abbrev Fields := List (String × Role)

def castFields : Fields :=
  [("type", .choice), ("options", .record [("force_locale", .plain)])]

def nodeFields : Fields :=
  [("selector", .plain), ("extractors", .list (.tagged .extractor)),
   ("if_missing", .tagged .recovery)]

/-- The kinds of a tagged value, each with its fields. -/
def Family.kinds : Family → List (String × Fields)
  | .transformer =>
    [("transformer:regex", [("regex", .plain), ("replacement", .plain)]),
     ("transformer:cast", castFields),
     ("transformer:fallback", [("value", .plain)]),
     ("transformer:trim", [("options", .list .choice)])]
  | .extractor =>
    [("extractor:text", [("key", .plain), ("transformers", .list (.tagged .transformer))]),
     ("extractor:attribute",
       [("key", .plain), ("attribute", .plain), ("transformers", .list (.tagged .transformer))]),
     ("extractor:style",
       [("key", .plain), ("declaration", .plain), ("pseudo", .plain),
        ("transformers", .list (.tagged .transformer))])]
  | .rule =>
    [("selector:node", nodeFields),
     ("selector:array",
       [("key", .plain), ("selector", .plain), ("fields", .list (.tagged .rule))])]
  | .recovery =>
    [("recovery:bail", [("warning", .plain)]),
     ("recovery:omit", [("warning", .plain)]),
     ("recovery:fallback", [("selector", .tagged .rule)])]

/-- The fields besides its kind; a kind that is not known has none. -/
def Family.fields (family : Family) (kind : Kind) : Fields :=
  match kind.index? .inner (family.kinds.map (·.1)) with
  | some (some i) => (family.kinds[i]?).elim [] (·.2)
  | _ => []

def variableFields : Fields :=
  [("kind", .choice), ("identifier", .plain), ("alias", .plain), ("description", .plain),
   ("default", .plain)]

def resourceFields : Fields :=
  [("id", .plain), ("hostname", .plain), ("url_pattern", .plain),
   ("variables", .list (.record variableFields)), ("meta", .list (.record nodeFields)),
   ("wait_for", .list .plain), ("descriptors", .list (.tagged .rule)), ("hash", .plain),
   ("disabled", .plain)]

namespace Role

/-- The fields of a value, its kind among them. -/
def fieldsOf (v : Json) : Role → Fields
  | .record fields => fields
  | .tagged family =>
    match tagged? v with
    | some (kind, _) => ("kind", .plain) :: family.fields kind
    | none => [("kind", .plain)]
  | _ => []

/-- What a member of an object stands for. -/
def memberRole (v : Json) (name : String) : Role → Role
  | .choice => .choice
  | p => ((p.fieldsOf v).lookup name).getD .plain

/-- What the item at some index of an array stands for when the fields are given. -/
def roleAt (fields : Fields) (i : Nat) : Role := (fields[i]?).elim .plain (·.2)

/-- What an item of an array stands for. -/
def itemRole (v : Json) (i : Nat) : Role → Role
  | .list item => item
  | p => roleAt (p.fieldsOf v) i

end Role

/-! What may change -/

/-- Whether a value is an object of a kind of transformer that is not known. -/
def IsUnknown (v : Json) : Prop :=
  ∃ kind members, tagged? v = some (kind, .obj members) ∧
    kind.index? .inner transformerKinds = some none

/-- What becomes of a value by a change somewhere inside of it. -/
inductive Change : Role → Json → Json → Prop
  | same {p : Role} {v : Json} : Change p v v
  /-- A member is added whose name is not the name of a field. -/
  | add {p : Role} {l r : Members} {name : String} {value : Json} (hp : p ≠ .choice)
    (hname : name ∉ (p.fieldsOf (.obj (l ++ r))).map (·.1)) :
    Change p (.obj (l ++ r)) (.obj (l ++ (name, value) :: r))
  | reorder {p : Role} {members members' : Members} (h : members.Perm members') :
    Change p (.obj members) (.obj members')
  /-- A transformer of a kind that is not known becomes another one. -/
  | replace {v w : Json} (hv : IsUnknown v) (hw : IsUnknown w) : Change (.tagged .transformer) v w
  | member {p : Role} {l r : Members} {name : String} {v w : Json}
    (h : Change (p.memberRole (.obj (l ++ (name, v) :: r)) name) v w) :
    Change p (.obj (l ++ (name, v) :: r)) (.obj (l ++ (name, w) :: r))
  | item {p : Role} {l r : List Json} {v w : Json}
    (h : Change (p.itemRole (.arr (l ++ v :: r)) l.length) v w) :
    Change p (.arr (l ++ v :: r)) (.arr (l ++ w :: r))

variable {p : Role} {v w : Json} {top : Nat} {fs : Fields}

theorem IsUnknown.exists_obj (h : IsUnknown v) : ∃ members, v = .obj members := by
  obtain ⟨kind, members, h, -⟩ := h
  unfold tagged? at h
  split at h <;> simp_all

/-- Whether a value has nothing inside. -/
def isAtom : Json → Bool
  | .arr _ => false
  | .obj _ => false
  | _ => true

theorem IsUnknown.not_isAtom (h : IsUnknown v) : isAtom v = false := by
  obtain ⟨members, rfl⟩ := h.exists_obj
  rfl

/-- What has nothing inside stays as it is, and nothing else becomes such a value. -/
theorem Change.eq_of_isAtom (h : Change p v w) (ha : isAtom v ∨ isAtom w) : w = v := by
  cases h with
  | same => rfl
  | replace hv hw => simp [hv.not_isAtom, hw.not_isAtom] at ha
  | _ => simp [isAtom] at ha

/-- The ways to write a name. -/
inductive IsName : Json → Prop
  | str {s : String} : IsName (.str s)
  | null {s : String} : IsName (.obj [(s, .null)])
  | empty {s : String} : IsName (.obj [(s, .obj [])])

theorem IsName.unchanged_member {s : String} {x : Json} (hx : ∀ y, Change .choice x y → y = x)
    (h : Change .choice (.obj [(s, x)]) w) : w = .obj [(s, x)] := by
  generalize hv : Json.obj [(s, x)] = v at h
  cases h with
  | same => rfl
  | add hp => exact absurd rfl hp
  | reorder h =>
    cases hv
    rw [List.singleton_perm.1 h]
  | member h =>
    obtain ⟨rfl, hl⟩ | ⟨_, rfl, hl⟩ := List.append_eq_cons_iff.1 (Json.obj.inj hv).symm
    · cases hl
      rw [hx _ h]
    · simp at hl
  | item => cases hv

theorem IsName.unchanged (hv : IsName v) (h : Change .choice v w) : w = v := by
  cases hv with
  | str => exact h.eq_of_isAtom (.inl rfl)
  | null => exact unchanged_member (fun y hy => hy.eq_of_isAtom (.inl rfl)) h
  | empty =>
    refine unchanged_member (fun y hy => ?_) h
    generalize hv : Json.obj [] = v at hy
    cases hy with
    | same => rfl
    | add hp => exact absurd rfl hp
    | reorder h =>
      cases hv
      rw [List.nil_perm.1 h]
    | member => simp at hv
    | item => cases hv

/-! The fields of an object -/

/-- Whether a field is as it was but for a change in its value. -/
inductive FieldChange (top : Nat) (p : Role) : Field → Field → Prop
  | given {v w : Json} (h : Change p v w) (hd : w.depth < top) :
    FieldChange top p (.given v) (.given w)
  | absent : FieldChange top p .absent .absent
  | cut : FieldChange top p .cut .cut

/-- Whether a member that is not repeated stays but for a change in its value. -/
def Keeps (top : Nat) (members members' : Members) (f : String × Role) : Prop :=
  isRepeated f.1 members = false → isRepeated f.1 members' = false ∧
    FieldChange top f.2 (fieldOf members f.1) (fieldOf members' f.1)

section

variable {members members' l r : Members} {name : String} {value : Json} {f : String × Role}

theorem fieldChange_fieldOf (name : String) :
    FieldChange (obj members).depth p (fieldOf members name) (fieldOf members name) := by
  unfold fieldOf
  split
  · next x hx => exact .given .same (depth_lt_obj (mem_of_get? hx))
  · exact .absent

theorem keeps_of_eq (hrepeated : isRepeated f.1 members = false → isRepeated f.1 members' = false)
    (hget : isRepeated f.1 members = false → members'.get? f.1 = members.get? f.1) :
    Keeps (obj members').depth members members' f := by
  intro h
  have hfield : fieldOf members f.1 = fieldOf members' f.1 := by
    unfold fieldOf
    rw [hget h]
  refine ⟨hrepeated h, ?_⟩
  rw [hfield]
  exact fieldChange_fieldOf _

theorem keeps_add (h : name ≠ f.1) :
    Keeps (obj (l ++ (name, value) :: r)).depth (l ++ r) (l ++ (name, value) :: r) f := by
  refine keeps_of_eq ?_ ?_
  · simp [isRepeated, List.filter_append, h]
  · simp [get?_append, get?, h]

theorem get?_eq_head? : members.get? name =
    (members.filter fun m => m.1 = name).head?.map (·.2) := by
  induction members with
  | nil => rfl
  | cons m rest ih =>
    obtain ⟨k, x⟩ := m
    by_cases hk : k = name <;> simp [get?, hk, ih]

theorem keeps_reorder (h : members.Perm members') :
    Keeps (obj members').depth members members' f := by
  have hfound := h.filter fun m => decide (m.1 = f.1)
  refine keeps_of_eq ?_ fun hone => ?_
  · simp [isRepeated, hfound.length_eq]
  · rw [get?_eq_head?, get?_eq_head?]
    unfold isRepeated at hone
    generalize members.filter _ = found at hfound hone
    match found with
    | [] => rw [List.nil_perm.1 hfound]
    | [_] => rw [List.singleton_perm.1 hfound]
    | _ :: _ :: _ => simp at hone

theorem keeps_member (h : f.1 = name → Change f.2 v w) :
    Keeps (obj (l ++ (name, w) :: r)).depth (l ++ (name, v) :: r) (l ++ (name, w) :: r) f := by
  intro hone
  refine ⟨?_, ?_⟩
  · rw [← hone]
    by_cases hf : name = f.1 <;> simp [isRepeated, List.filter_append, hf]
  · by_cases hf : f.1 = name ∧ l.get? f.1 = none
    · obtain ⟨hf, hl⟩ := hf
      have hat : ∀ x, fieldOf (l ++ (name, x) :: r) f.1 = .given x := by
        intro x
        rw [fieldOf, get?_append, hl]
        simp [get?, hf]
      rw [hat, hat]
      exact .given (h hf) (depth_lt_obj (List.mem_append_right _ List.mem_cons_self))
    · have hat : fieldOf (l ++ (name, v) :: r) f.1 = fieldOf (l ++ (name, w) :: r) f.1 := by
        unfold fieldOf
        rw [get?_append, get?_append]
        cases hl : l.get? f.1 with
        | some x => rfl
        | none =>
          have hne : name ≠ f.1 := fun heq => hf ⟨heq.symm, hl⟩
          simp [get?, hne]
      rw [hat]
      exact fieldChange_fieldOf _

end

/-! Objects and arrays -/

section

variable {members : Members} {items : List Json} {family : Family} {kind : Kind} {content : Json}

theorem lookup_of_mem {f : String × Role} (hf : f ∈ fs) (hdistinct : (fs.map (·.1)).Nodup) :
    fs.lookup f.1 = some f.2 := by
  induction fs with
  | nil => cases hf
  | cons g rest ih =>
    obtain ⟨name, q⟩ := g
    rw [List.map_cons, List.nodup_cons] at hdistinct
    rcases List.mem_cons.1 hf with rfl | hf
    · rw [List.lookup_cons_self]
    · have hne : (f.1 == name) = false :=
        beq_eq_false_iff_ne.2 fun heq => hdistinct.1 (List.mem_map.2 ⟨f, hf, heq⟩)
      rw [List.lookup_cons, hne]
      exact ih hf hdistinct.2

theorem Role.memberRole_of_mem {f : String × Role} (hf : f ∈ p.fieldsOf v)
    (hdistinct : ((p.fieldsOf v).map (·.1)).Nodup) : p.memberRole v f.1 = f.2 := by
  have hlookup := lookup_of_mem hf hdistinct
  cases p with
  | choice => cases hf
  | _ => simp [memberRole, hlookup]

/-- An object stays one that keeps its fields, or is replaced. -/
theorem Change.keeps (h : Change p (.obj members) w)
    (hdistinct : ((p.fieldsOf (.obj members)).map (·.1)).Nodup) :
    (∃ members', w = .obj members' ∧
      ∀ f ∈ p.fieldsOf (.obj members), Keeps w.depth members members' f) ∨
    p = .tagged .transformer ∧ IsUnknown (.obj members) ∧ IsUnknown w := by
  generalize hv : Json.obj members = v at h hdistinct ⊢
  cases h with
  | same =>
    subst hv
    exact .inl ⟨_, rfl, fun f _ => keeps_of_eq (fun h => h) fun _ => rfl⟩
  | add _ hname =>
    cases hv
    refine .inl ⟨_, rfl, fun f hf => keeps_add ?_⟩
    rintro rfl
    exact hname (List.mem_map_of_mem hf)
  | reorder h =>
    cases hv
    exact .inl ⟨_, rfl, fun f _ => keeps_reorder h⟩
  | replace hv hw => exact .inr ⟨rfl, hv, hw⟩
  | member h =>
    cases hv
    refine .inl ⟨_, rfl, fun f hf => keeps_member ?_⟩
    rintro rfl
    rwa [Role.memberRole_of_mem hf hdistinct] at h
  | item => cases hv

/-- Whether the items of an array are changed as their roles allow. -/
inductive Row (top : Nat) : (Nat → Role) → List Json → List Json → Prop
  | nil {roles : Nat → Role} : Row top roles [] []
  | cons {roles : Nat → Role} {v w : Json} {vs ws : List Json} (h : Change (roles 0) v w)
    (hd : w.depth < top) (rest : Row top (fun i => roles (i + 1)) vs ws) :
    Row top roles (v :: vs) (w :: ws)

theorem row_same {roles : Nat → Role} (hd : ∀ v ∈ items, v.depth < top) :
    Row top roles items items := by
  induction items generalizing roles with
  | nil => exact .nil
  | cons v vs ih =>
    obtain ⟨hv, hvs⟩ := List.forall_mem_cons.1 hd
    exact .cons .same hv (ih hvs)

theorem row_item {roles : Nat → Role} {l r : List Json} (h : Change (roles l.length) v w)
    (hd : ∀ x ∈ l ++ w :: r, x.depth < top) : Row top roles (l ++ v :: r) (l ++ w :: r) := by
  induction l generalizing roles with
  | nil =>
    obtain ⟨hw, hr⟩ := List.forall_mem_cons.1 hd
    exact .cons h hw (row_same hr)
  | cons x l ih =>
    obtain ⟨hx, hl⟩ := List.forall_mem_cons.1 hd
    exact .cons .same hx (ih h hl)

theorem Change.row (h : Change p (.arr items) w) :
    ∃ items', w = .arr items' ∧
      Row w.depth (fun i => p.itemRole (.arr items) i) items items' := by
  generalize hv : Json.arr items = v at h ⊢
  cases h with
  | same =>
    subst hv
    exact ⟨_, rfl, row_same fun _ => depth_lt_arr⟩
  | item h =>
    cases hv
    exact ⟨_, rfl, row_item h fun _ => depth_lt_arr⟩
  | replace h =>
    obtain ⟨members, rfl⟩ := h.exists_obj
    cases hv
  | _ => cases hv

/-! Records and tagged values -/

/-- Whether a value is read as the same fields but for changes in their values. -/
inductive Matches (top : Nat) (fs : Fields) : Json → Json → Prop
  | atom {v : Json} (h : isAtom v) : Matches top fs v v
  | obj {members members' : Members} (h : ∀ f ∈ fs, Keeps top members members' f) :
    Matches top fs (.obj members) (.obj members')
  | arr {items items' : List Json} (h : Row top (Role.roleAt fs) items items') :
    Matches top fs (.arr items) (.arr items')

/-- Fields that are changed one by one. -/
inductive Aligned (top : Nat) : Fields → List Field → List Field → Prop
  | nil : Aligned top [] [] []
  | cons {f : String × Role} {fs : Fields} {x y : Field} {xs ys : List Field}
    (h : FieldChange top f.2 x y) (rest : Aligned top fs xs ys) :
    Aligned top (f :: fs) (x :: xs) (y :: ys)

theorem aligned_map {members members' : Members}
    (h : ∀ f ∈ fs, FieldChange top f.2 (fieldOf members f.1) (fieldOf members' f.1)) :
    Aligned top fs ((fs.map (·.1)).map (fieldOf members))
      ((fs.map (·.1)).map (fieldOf members')) := by
  induction fs with
  | nil => exact .nil
  | cons f fs ih =>
    obtain ⟨hf, hfs⟩ := List.forall_mem_cons.1 h
    exact .cons hf (ih hfs)

theorem Row.fieldsOfArray {items items' : List Json} {xs : List Field}
    (h : Row top (Role.roleAt fs) items items')
    (hx : fieldsOfArray (fs.map (·.1)) items = some xs) :
    ∃ ys, fieldsOfArray (fs.map (·.1)) items' = some ys ∧ Aligned top fs xs ys := by
  induction fs generalizing items items' xs with
  | nil =>
    cases h with
    | nil =>
      cases hx
      exact ⟨[], rfl, .nil⟩
    | cons => cases hx
  | cons f fs ih =>
    cases h with
    | nil =>
      obtain ⟨xs, hxs, rfl⟩ := Option.map_eq_some_iff.1 hx
      obtain ⟨ys, hys, halign⟩ := ih .nil hxs
      exact ⟨.cut :: ys, Option.map_eq_some_iff.2 ⟨ys, hys, rfl⟩, .cons .cut halign⟩
    | cons h hd rest =>
      obtain ⟨xs, hxs, rfl⟩ := Option.map_eq_some_iff.1 hx
      obtain ⟨ys, hys, halign⟩ := ih rest hxs
      exact ⟨.given _ :: ys, Option.map_eq_some_iff.2 ⟨ys, hys, rfl⟩, .cons (.given h hd) halign⟩

theorem Matches.record? {names : List String} {xs : List Field} (h : Matches top fs v w)
    (hx : record? names v = some xs) (hnames : fs.map (·.1) = names) :
    ∃ ys, record? names w = some ys ∧ Aligned top fs xs ys := by
  subst hnames
  cases h with
  | atom ha => cases v <;> simp [isAtom, Json.record?] at ha hx
  | arr h => exact h.fieldsOfArray hx
  | @obj members members' h =>
    rw [Json.record?] at hx
    split at hx
    · cases hx
    · next hone =>
      cases hx
      have hkeeps : ∀ f ∈ fs, isRepeated f.1 members' = false ∧
          FieldChange top f.2 (fieldOf members f.1) (fieldOf members' f.1) := by
        intro f hf
        refine h f hf ?_
        simp only [List.any_eq_true, List.mem_map, not_exists, not_and] at hone
        simpa using hone f.1 ⟨f, hf, rfl⟩
      have hnone : ((fs.map (·.1)).any fun n => isRepeated n members') = false := by
        simpa using fun name p hf => (hkeeps (name, p) hf).1
      refine ⟨_, ?_, aligned_map fun f hf => (hkeeps f hf).2⟩
      rw [Json.record?, hnone]
      rfl

theorem Change.matches (h : Change (.record fs) v w) (hdistinct : (fs.map (·.1)).Nodup) :
    Matches w.depth fs v w := by
  cases v with
  | arr items =>
    obtain ⟨items', rfl, hrow⟩ := h.row
    exact .arr hrow
  | obj members =>
    obtain ⟨members', rfl, hkeeps⟩ | ⟨hp, -⟩ := h.keeps hdistinct
    · exact .obj hkeeps
    · cases hp
  | _ =>
    rw [h.eq_of_isAtom (.inl rfl)]
    exact .atom rfl

theorem Family.nodup_fields (family : Family) (kind : Kind) :
    ((("kind", Role.plain) :: family.fields kind).map (·.1)).Nodup := by
  have hall : ∀ k ∈ family.kinds, ("kind" :: k.2.map (·.1)).Nodup := by
    cases family <;> decide
  have hkind : family.fields kind = [] ∨ ∃ k ∈ family.kinds, family.fields kind = k.2 := by
    unfold Family.fields
    split
    · next i _ =>
      cases hi : family.kinds[i]? with
      | none => exact .inl rfl
      | some k => exact .inr ⟨k, List.mem_of_getElem? hi, rfl⟩
    · exact .inl rfl
  rcases hkind with hnone | ⟨k, hk, heq⟩
  · simp [hnone]
  · rw [heq]
    exact hall k hk

theorem Role.fieldsOf_tagged (h : tagged? v = some (kind, content)) :
    (Role.tagged family).fieldsOf v = ("kind", .plain) :: family.fields kind := by
  simp only [fieldsOf, h]

theorem keeps_content {members' : Members} {f : String × Role} (h : Keeps top members members' f)
    (hf : f.1 ≠ "kind") :
    Keeps top (members.filter fun m => m.1 ≠ "kind") (members'.filter fun m => m.1 ≠ "kind") f := by
  have hrepeated : ∀ ms : Members,
      isRepeated f.1 (ms.filter fun m => m.1 ≠ "kind") = isRepeated f.1 ms := by
    intro ms
    have hfilter : ∀ m : String × Json, (decide (m.1 = f.1) && decide (m.1 ≠ "kind")) =
        decide (m.1 = f.1) := by
      intro m
      by_cases hm : m.1 = f.1 <;> simp [hm, hf]
    simp only [isRepeated, List.filter_filter, hfilter]
  have hfield : ∀ ms : Members,
      fieldOf (ms.filter fun m => m.1 ≠ "kind") f.1 = fieldOf ms f.1 := by
    intro ms
    simp only [fieldOf, get?_filter fun k => k ≠ "kind", hf, ne_eq, not_false_eq_true, decide_true,
      if_true]
  unfold Keeps
  rw [hrepeated, hrepeated, hfield, hfield]
  exact h

theorem keeps_kind {members' : Members} {x : Json} (h : Keeps top members members' ("kind", p))
    (hone : isRepeated "kind" members = false) (hx : members.get? "kind" = some x)
    (ha : isAtom x) : isRepeated "kind" members' = false ∧ members'.get? "kind" = some x := by
  obtain ⟨hone', hfield⟩ := h hone
  refine ⟨hone', ?_⟩
  unfold fieldOf at hfield
  rw [hx] at hfield
  generalize members'.get? "kind" = o at hfield ⊢
  cases o with
  | none => cases hfield
  | some y =>
    cases hfield with
    | given h => rw [h.eq_of_isAtom (.inl ha)]

/-- The fields of a kind that is known by its name or its number. -/
theorem Family.fields_eq {nesting : Nesting} {i : Nat}
    (h : kind.index? nesting (family.kinds.map (·.1)) = some (some i)) :
    kind.index? .inner (family.kinds.map (·.1)) = some (some i) ∧
      family.fields kind = (family.kinds[i]?).elim [] (·.2) := by
  have hinner : kind.index? .inner (family.kinds.map (·.1)) = some (some i) := by
    cases kind with
    | named s => exact h
    | numbered n => cases nesting <;> simp_all [Kind.index?]
  rw [Family.fields, hinner]
  exact ⟨rfl, rfl⟩

/-- The kind that a value names. -/
def kindOf? : Json → Option Kind
  | .str s => some (.named s)
  | .num (.int n) => some (.numbered n)
  | _ => none

theorem isAtom_of_kindOf? (h : kindOf? v = some kind) : isAtom v := by
  unfold kindOf? at h
  split at h <;> first | rfl | cases h

theorem tagged?_obj : tagged? (.obj members) =
    if isRepeated "kind" members then none
    else ((members.get? "kind").bind kindOf?).map
      (·, .obj (members.filter fun m => m.1 ≠ "kind")) := by
  rw [tagged?]
  split
  · rfl
  · unfold kindOf?
    cases members.get? "kind" with
    | none => rfl
    | some x => dsimp only [Option.bind_some]; split <;> first | rfl | simp_all

theorem tagged?_arr_cons : tagged? (.arr (v :: items)) = (kindOf? v).map (·, .arr items) := by
  unfold tagged? kindOf?
  cases v with
  | num n => cases n <;> rfl
  | _ => rfl

/-- A tagged value keeps its kind and the fields of that kind, or is replaced. -/
theorem Change.tagged? (h : Change (.tagged family) v w)
    (hv : tagged? v = some (kind, content)) :
    (∃ content', Json.tagged? w = some (kind, content') ∧
      Matches w.depth (family.fields kind) content content') ∨
    family = .transformer ∧ IsUnknown v ∧ IsUnknown w := by
  have hfields : (Role.tagged family).fieldsOf v = ("kind", .plain) :: family.fields kind :=
    Role.fieldsOf_tagged hv
  have hdistinct := family.nodup_fields kind
  cases v with
  | arr items =>
    obtain ⟨items', rfl, hrow⟩ := h.row
    cases hrow with
    | nil => cases hv
    | @cons _ x y vs ws hx _ hrest =>
      rw [tagged?_arr_cons] at hv
      obtain ⟨k, hk, heq⟩ := Option.map_eq_some_iff.1 hv
      cases heq
      simp only [Role.itemRole, hfields] at hx hrest
      obtain rfl : y = x := hx.eq_of_isAtom (.inl (isAtom_of_kindOf? hk))
      refine .inl ⟨.arr ws, ?_, .arr hrest⟩
      rw [tagged?_arr_cons, hk]
      rfl
  | obj members =>
    obtain ⟨members', rfl, hkeeps⟩ | ⟨hp, hreplaced⟩ := h.keeps (by rwa [hfields])
    · rw [hfields, List.forall_mem_cons] at hkeeps
      obtain ⟨hkind, hkeeps⟩ := hkeeps
      rw [tagged?_obj] at hv
      split at hv
      · cases hv
      · next hone =>
        obtain ⟨k, hk, heq⟩ := Option.map_eq_some_iff.1 hv
        cases heq
        obtain ⟨x, hx, hk⟩ := Option.bind_eq_some_iff.1 hk
        obtain ⟨hone', hx'⟩ := keeps_kind hkind (by simpa using hone) hx (isAtom_of_kindOf? hk)
        refine .inl ⟨.obj (members'.filter fun m => m.1 ≠ "kind"), ?_, .obj fun f hf => ?_⟩
        · rw [tagged?_obj, hone', hx', Option.bind_some, hk]
          rfl
        · refine keeps_content (hkeeps f hf) fun heq => ?_
          exact (List.nodup_cons.1 hdistinct).1 (List.mem_map.2 ⟨f, hf, heq⟩)
    · cases hp
      exact .inr ⟨rfl, hreplaced⟩
  | _ => cases hv

/-- A tagged value of a kind that is known is not replaced. -/
theorem Change.tagged?_known {nesting : Nesting} {i : Nat} (h : Change (.tagged family) v w)
    (hv : Json.tagged? v = some (kind, content))
    (hi : kind.index? nesting (family.kinds.map (·.1)) = some (some i)) :
    ∃ content', Json.tagged? w = some (kind, content') ∧
      Matches w.depth ((family.kinds[i]?).elim [] (·.2)) content content' := by
  obtain ⟨hinner, hfields⟩ := Family.fields_eq hi
  rcases h.tagged? hv with hkept | ⟨rfl, ⟨_, _, hold, hunknown⟩, -⟩
  · rwa [hfields] at hkept
  · cases hold.symm.trans hv
    cases hunknown.symm.trans hinner

end

end Harvest.Resource
