import Harvest.Proofs.Job.RoundTrip
/-!
What the flag of a result is worth. The flag of a body is kept as it was written, but whether the
body is read as a success depends on its other members alone: it is one if it reports a page. So the
two agree exactly for bodies that report a page just if their flag is set, as all bodies do that are
written here.
-/

namespace Harvest

open Json Members
open Resource (record texts? texts_decode)

/-! The members of a record, which may be written as an object or as an array -/

namespace Json

variable {names : List String} {fields : List Field} {v w : Json} {name : String} {place : Nat}
  {f : Json → Option α} {x : α}

/-- What stands for a field of a record: the member of that name, or the item at its place. -/
def memberAt? (name : String) (place : Nat) : Json → Option Json
  | .obj members => Members.get? name members
  | .arr items => items[place]?
  | _ => none

/-- Whether a value can be a record with the given fields. -/
def IsRecord (names : List String) : Json → Prop
  | .obj members => ∀ n ∈ names, isRepeated n members = false
  | .arr items => items.length ≤ names.length
  | _ => False

/-- A field of a record, by its name and its place. -/
def fieldAt (name : String) (place : Nat) : Json → Field
  | .obj members => fieldOf members name
  | .arr items => if h : place < items.length then .given items[place] else .cut
  | _ => .absent

theorem fieldsOfArray_eq (items : List Json) : fieldsOfArray names items =
    if items.length ≤ names.length then
      some (items.map .given ++ List.replicate (names.length - items.length) .cut)
    else none := by
  fun_induction fieldsOfArray names items with
  | case1 => rfl
  | case2 => rfl
  | case3 name names ih => simp [ih, List.replicate_succ]
  | case4 name names v r ih =>
    rw [ih]
    by_cases h : r.length ≤ names.length <;> simp [h]

theorem length_fieldsOfArray_le {items : List Json} (h : fieldsOfArray names items = some fields) :
    items.length ≤ names.length := by
  rw [fieldsOfArray_eq] at h
  split at h
  · assumption
  · cases h

theorem record?_obj (members : List (String × Json)) : record? names (.obj members) =
    if names.any fun n => isRepeated n members then none
    else some (names.zipIdx.map fun (n, i) => (Json.obj members).fieldAt n i) := by
  have hfields : names.map (fieldOf members) =
      names.zipIdx.map fun (n, i) => (Json.obj members).fieldAt n i := by
    conv => lhs; rw [← List.zipIdx_map_fst 0 names, List.map_map]
    rfl
  rw [← hfields]
  rfl

theorem record?_arr {items : List Json} (h : items.length ≤ names.length) :
    record? names (.arr items) =
      some (names.zipIdx.map fun (n, i) => (Json.arr items).fieldAt n i) := by
  rw [record?, fieldsOfArray_eq, if_pos h]
  congr 1
  refine List.ext_getElem (by simp; omega) fun i hi _ => ?_
  by_cases hlt : i < items.length
  · simp [fieldAt, hlt]
  · have hle : items.length ≤ i := Nat.not_lt.1 hlt
    simp [fieldAt, hlt, List.getElem_append_right, hle]

/-- The fields of a record are found by their names and places. -/
theorem record?_eq_some_iff : record? names v = some fields ↔
    v.IsRecord names ∧ fields = names.zipIdx.map fun (n, i) => v.fieldAt n i := by
  cases v with
  | obj members =>
    rw [record?_obj]
    cases hany : names.any fun n => isRepeated n members with
    | true =>
      obtain ⟨n, hn, hrepeated⟩ := List.any_eq_true.1 hany
      refine iff_of_false (by simp) fun ⟨h, _⟩ => ?_
      simp [h n hn] at hrepeated
    | false =>
      have hrecord : (Json.obj members).IsRecord names := by simpa [IsRecord] using hany
      simp [hrecord, eq_comm]
  | arr items =>
    constructor
    · intro h
      have hle := length_fieldsOfArray_le h
      exact ⟨hle, Option.some.inj (h.symm.trans (record?_arr hle))⟩
    · rintro ⟨hle, rfl⟩
      exact record?_arr hle
  | null | bool _ | num _ | str _ => simp [record?, IsRecord]

theorem given_memberAt : (v.fieldAt name place).required some = v.memberAt? name place := by
  cases v with
  | obj members =>
    rw [fieldAt, fieldOf, memberAt?]
    split <;> simp_all [Field.required]
  | arr items =>
    by_cases h : place < items.length
    · simp [fieldAt, memberAt?, h, Field.required]
    · simp [fieldAt, memberAt?, h, Field.required]
  | null | bool _ | num _ | str _ => rfl

/-- A field that every record has is read from its member. -/
theorem required_fieldAt :
    (v.fieldAt name place).required f = (v.memberAt? name place).bind f := by
  rw [← given_memberAt]
  cases v.fieldAt name place <;> rfl

/-- A field with a default is read from its member, if there is one. -/
theorem orDefault_fieldAt {d : α} : (∃ x, (v.fieldAt name place).orDefault d f = some x) ↔
    ∀ w, v.memberAt? name place = some w → ∃ x, f w = some x := by
  rw [← given_memberAt]
  cases v.fieldAt name place <;> simp [Field.orDefault, Field.required]

end Json

namespace JobResult

variable {v : Json} {r : JobResult}

/-- The flag that a result was read or made with. -/
def flag : JobResult → Bool
  | success f _ => f
  | failure f .. => f

/-- Whether a body has the members of a page that was harvested. -/
structure ReportsPage (v : Json) : Prop where
  record :
    v.IsRecord ["success", "payload", "resource_id", "variables", "job", "warnings"]
  payload : ∃ m, v.memberAt? "payload" 1 = some (.obj m)
  resourceId : ∃ id, v.memberAt? "resource_id" 2 = some (.str id)
  bindings : ∃ m, v.memberAt? "variables" 3 = some (.obj m)
  source : ∃ w source, v.memberAt? "job" 4 = some w ∧ Job.Source.ofJson? .inner w = some source
  warnings : ∀ w, v.memberAt? "warnings" 5 = some w → ∃ texts, texts? w = some texts

theorem string?_eq_some_iff {s : String} : string? v = some s ↔ v = .str s := by
  cases v <;> simp [string?]

theorem bool?_eq_some_iff {b : Bool} : bool? v = some b ↔ v = .bool b := by
  cases v <;> simp [bool?]

theorem exists_payload?_iff : (∃ m, payload? v = some m) ↔ ∃ m, v = .obj m := by
  cases v <;> simp [payload?, canonical, object?]

theorem required_flag_iff {b : Bool} : (v.fieldAt "success" 0).required bool? = some b ↔
    v.memberAt? "success" 0 = some (.bool b) := by
  simp [required_fieldAt, Option.bind_eq_some_iff, bool?_eq_some_iff]

/-- What is read as a success reports a page, whatever its flag. -/
theorem reportsPage_of_successOf? (h : successOf? v = some r) :
    ReportsPage v ∧ r.isSuccess = true ∧ v.memberAt? "success" 0 = some (.bool r.flag) := by
  unfold successOf? at h
  split at h
  · rename_i flag payload resourceId bindings job warnings hrecord
    obtain ⟨hv, hfields⟩ := record?_eq_some_iff.1 hrecord
    simp only [List.zipIdx_cons, List.zipIdx_nil, List.map_cons, List.map_nil, List.cons.injEq,
      and_true] at hfields
    obtain ⟨rfl, rfl, rfl, rfl, rfl, rfl⟩ := hfields
    simp only [Option.bind_eq_bind, Option.bind_eq_some_iff] at h
    obtain ⟨b, hb, m, hm, id, hid, n, hn, source, hsource, texts, htexts, heq⟩ := h
    cases heq
    rw [required_fieldAt, Option.bind_eq_some_iff] at hm hid hn hsource
    obtain ⟨wm, hwm, hm⟩ := hm
    obtain ⟨wid, hwid, hid⟩ := hid
    obtain ⟨wn, hwn, hn⟩ := hn
    obtain ⟨ws, hws, hsource⟩ := hsource
    obtain ⟨m', rfl⟩ := exists_payload?_iff.1 ⟨m, hm⟩
    obtain ⟨n', rfl⟩ := exists_payload?_iff.1 ⟨n, hn⟩
    obtain rfl := string?_eq_some_iff.1 hid
    refine ⟨⟨hv, ⟨m', hwm⟩, ⟨id, hwid⟩, ⟨n', hwn⟩, ⟨ws, source, hws, hsource⟩, ?_⟩, rfl,
      required_flag_iff.1 hb⟩
    exact orDefault_fieldAt.1 ⟨texts, htexts⟩
  · cases h

/-- A body that reports a page is read as a success with whatever flag it has. -/
theorem exists_successOf? (h : ReportsPage v) {b : Bool}
    (hb : v.memberAt? "success" 0 = some (.bool b)) :
    ∃ page, successOf? v = some (.success b page) := by
  obtain ⟨hrecord, ⟨m, hm⟩, ⟨id, hid⟩, ⟨n, hn⟩, ⟨w, source, hw, hsource⟩, hwarnings⟩ := h
  obtain ⟨texts, htexts⟩ := orDefault_fieldAt (d := []).2 hwarnings
  have hfields := record?_eq_some_iff.2 ⟨hrecord, rfl⟩
  simp [successOf?, hfields, required_fieldAt, hb, hm, hid, hn, hw, hsource, htexts, bool?,
    string?, payload?, canonical, object?]

theorem flag_of_failureOf? (h : failureOf? v = some r) :
    r.isSuccess = false ∧ v.memberAt? "success" 0 = some (.bool r.flag) := by
  unfold failureOf? at h
  split at h
  · rename_i flag resourceId source error hrecord
    obtain ⟨-, hfields⟩ := record?_eq_some_iff.1 hrecord
    simp only [List.zipIdx_cons, List.zipIdx_nil, List.map_cons, List.map_nil, List.cons.injEq,
      and_true] at hfields
    obtain ⟨rfl, -⟩ := hfields
    simp only [Option.bind_eq_bind, Option.bind_eq_some_iff] at h
    obtain ⟨b, hb, id, -, source, -, error, -, heq⟩ := h
    cases heq
    exact ⟨rfl, required_flag_iff.1 hb⟩
  · cases h

/-- The flag of a body that is read is kept, and whether it is a success depends on the rest. -/
theorem flag_of_ofJson? (h : ofJson? v = some r) :
    v.memberAt? "success" 0 = some (.bool r.flag) ∧ (r.isSuccess = true ↔ ReportsPage v) := by
  unfold ofJson? at h
  cases hsuccess : successOf? v with
  | some r' =>
    obtain rfl : r' = r := by simpa [hsuccess] using h
    obtain ⟨hpage, hr, hflag⟩ := reportsPage_of_successOf? hsuccess
    exact ⟨hflag, iff_of_true hr hpage⟩
  | none =>
    obtain ⟨hr, hflag⟩ := flag_of_failureOf? (by simpa [hsuccess] using h)
    refine ⟨hflag, iff_of_false (by simp [hr]) fun hpage => ?_⟩
    obtain ⟨page, hread⟩ := exists_successOf? hpage hflag
    simp [hsuccess] at hread

theorem memberAt?_record {ms : Members} (h : AreDistinct ms) (name : String) (place : Nat) :
    (record ms).memberAt? name place = ms.get? name :=
  h.get?_ofList

theorem isRecord_record (names : List String) (ms : Members) : (record ms).IsRecord names :=
  fun n _ => isRepeated_eq_false (isSorted_ofList ms).areDistinct n

theorem reportsPage_ofPage (page : ScrapedPage) : ReportsPage (ofPage page).toJson ∧
    (ofPage page).toJson.memberAt? "success" 0 = some (.bool true) := by
  have hsource : Job.Source.ofJson? .inner page.source.toJson = some page.source :=
    page.source.decodes page.source.isPlain.isCanonical
  have hwarnings := texts_decode page.warnings (isPlain_textsJson page.warnings).isCanonical
  simp only [ofPage, toJson]
  refine ⟨⟨isRecord_record _ _, ?_, ?_, ?_, ?_, ?_⟩, ?_⟩
  all_goals rw [memberAt?_record (by simp [AreDistinct])]
  · exact ⟨_, rfl⟩
  · exact ⟨_, rfl⟩
  · exact ⟨_, rfl⟩
  · exact ⟨_, _, rfl, hsource⟩
  · rintro w ⟨⟩
    exact ⟨_, hwarnings⟩
  · rfl

theorem not_reportsPage_ofFailure (resourceId : String) (source : Job.Source) (error : String) :
    ¬ ReportsPage (ofFailure resourceId source error).toJson ∧
    (ofFailure resourceId source error).toJson.memberAt? "success" 0 = some (.bool false) := by
  simp only [ofFailure, toJson]
  constructor
  · intro h
    obtain ⟨m, hm⟩ := h.payload
    rw [memberAt?_record (by simp [AreDistinct])] at hm
    cases hm
  · rw [memberAt?_record (by simp [AreDistinct])]
    rfl

/-- Whether a body was written here for a page or for a failure. -/
def IsWritten (v : Json) : Prop :=
  (∃ page, v = (ofPage page).toJson) ∨
    ∃ resourceId source error, v = (ofFailure resourceId source error).toJson

/-- A result keeps the flag of its body, but is a success just if the body reports a page: so the
    two agree exactly if the body reports a page just if it is flagged as a success. Bodies that
    are written here do. -/
theorem flag_agrees_iff (h : ofJson? v = some r) :
    v.memberAt? "success" 0 = some (.bool r.flag) ∧
    (r.isSuccess = true ↔ ReportsPage v) ∧
    (r.isSuccess = r.flag ↔ (v.memberAt? "success" 0 = some (.bool true) ↔ ReportsPage v)) ∧
    (IsWritten v → r.isSuccess = r.flag) := by
  obtain ⟨hflag, hpage⟩ := flag_of_ofJson? h
  have hagree : r.isSuccess = r.flag ↔
      (v.memberAt? "success" 0 = some (.bool true) ↔ ReportsPage v) := by
    rw [hflag, ← hpage]
    cases r.isSuccess <;> cases r.flag <;> simp
  refine ⟨hflag, hpage, hagree, fun hwritten => hagree.2 ?_⟩
  rcases hwritten with ⟨page, rfl⟩ | ⟨resourceId, source, error, rfl⟩
  · obtain ⟨hreports, htrue⟩ := reportsPage_ofPage page
    exact iff_of_true htrue hreports
  · obtain ⟨hreports, hfalse⟩ := not_reportsPage_ofFailure resourceId source error
    exact iff_of_false (by simp [hfalse]) hreports

/-- A body that is flagged as a failure and has the members of both kinds of results. -/
def contradictory : Json :=
  .obj [("success", .bool false), ("payload", .obj []), ("resource_id", .str "r"),
    ("variables", .obj []), ("job", .obj [("kind", .str "passive")]),
    ("source", .obj [("kind", .str "passive")]), ("error", .str "boom")]

theorem contradictory_accepted :
    ofJson? contradictory = some (.success false ⟨"r", [], [], .passive, []⟩) ∧
    contradictory.memberAt? "success" 0 = some (.bool false) ∧ ReportsPage contradictory := by
  have hread : ofJson? contradictory = some (.success false ⟨"r", [], [], .passive, []⟩) := rfl
  obtain ⟨hflag, hpage, -⟩ := flag_agrees_iff hread
  exact ⟨hread, hflag, hpage.1 rfl⟩

end JobResult
end Harvest
