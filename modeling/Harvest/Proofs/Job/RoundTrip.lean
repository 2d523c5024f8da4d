import Harvest.Job.Decode
import Harvest.Job.Encode
import Harvest.Page.Scrape
import Harvest.Proofs.Extraction.Shapes
import Harvest.Proofs.Json.Rearrangement
import Harvest.Proofs.Resource.RoundTrip
/-!
Pages and results that are written are read back, whatever the order of members. Harvested pages are
canonical: payloads and variables are sorted by key, at every depth, and repeat no key. What is read
first as a success is one only if it was written as one: a failure has no payload, and the objects
of a success may hold anything.
-/

/-! Harvested pages are canonical -/

namespace Harvest

open Json Resource

theorem Json.IsLeaf.isCanonical {v : Json} (h : v.IsLeaf) : v.IsCanonical := by
  cases v with
  | null => exact isCanonical_null
  | str s => exact isCanonical_str s
  | num n => exact isCanonical_num n
  | bool => cases h
  | arr => cases h
  | obj => cases h

/-- Whether an object is in canonical form. -/
def Members.IsCanonical (m : Members) : Prop := (Json.obj m).IsCanonical

namespace Members

variable {m values : Members} {key : String} {v : Json}

theorem isCanonical_nil : IsCanonical [] := isCanonical_obj.2 ⟨isSorted_nil, nofun⟩

theorem IsCanonical.insert (h : m.IsCanonical) (hv : v.IsCanonical) :
    IsCanonical (insert key v m) := by
  obtain ⟨hsorted, hvalues⟩ := isCanonical_obj.1 h
  refine isCanonical_obj.2 ⟨hsorted.insert, fun e he => ?_⟩
  rcases mem_insert he with heq | he
  · cases heq
    exact hv
  · exact hvalues e he

theorem IsCanonical.override (h : m.IsCanonical) (hvalues : values.IsCanonical) :
    IsCanonical (m.override values) := by
  obtain ⟨hsorted, hm⟩ := isCanonical_obj.1 h
  refine isCanonical_obj.2 ⟨hsorted.override values, fun e he => ?_⟩
  exact (mem_override he).elim (hm e) ((isCanonical_obj.1 hvalues).2 e)

end Members

namespace Extraction

variable {m : Members} {v : Json}

theorem isCanonical_membersOf (h : m.IsCanonical) (part : String) :
    (membersOf (m.get? part)).IsCanonical := by
  unfold membersOf
  split
  · rename_i inner hinner
    exact (isCanonical_obj.1 h).2 _ (Members.mem_of_get? hinner)
  · exact Members.isCanonical_nil

theorem isCanonical_insertAt (h : m.IsCanonical) (hv : v.IsCanonical) (parts : List String) :
    (insertAt parts v m).IsCanonical := by
  induction parts generalizing m with
  | nil => exact h
  | cons part rest ih =>
    cases rest with
    | nil => exact h.insert hv
    | cons next rest => exact h.insert (ih (isCanonical_membersOf h part))

theorem extractAll_gives_canonical (c : Transform.Context) (p : Html.Place)
    (extractors : List Extractor) (h : m.IsCanonical) :
    (extractAll c p extractors m).Gives Members.IsCanonical := by
  induction extractors generalizing m with
  | nil => exact Pass.gives_pure h
  | cons e rest ih =>
    exact (extract_gives_leaf c e p).bind fun v hv =>
      ih (isCanonical_insertAt h hv.isCanonical (keyParts e.key))

mutual

theorem rule_gives_canonical (s : Setting) : (r : Rule) → (scope : Scope) →
    (rule s r scope).Gives Members.IsCanonical
  | .node selector extractors recovery, scope => by
    refine Pass.gives_bind _ fun place => ?_
    cases place with
    | some p => exact extractAll_gives_canonical s.context p extractors Members.isCanonical_nil
    | none => exact recover_gives_canonical s _ recovery
  | .array key selector fields, scope => by
    refine Pass.gives_bind _ fun css => (each_gives (P := Json.IsCanonical) (fun p => ?_) _).bind
      fun items hitems => Pass.gives_pure ?_
    · exact (rules_give_canonical s fields (.element p) Members.isCanonical_nil).bind fun m hm =>
        Pass.gives_pure hm
    · exact Members.isCanonical_nil.insert (isCanonical_arr hitems)

theorem rules_give_canonical (s : Setting) : (l : List Rule) → (scope : Scope) → {base : Members} →
    base.IsCanonical → (rules s l scope base).Gives Members.IsCanonical
  | [], _, _, h => Pass.gives_pure h
  | r :: rest, scope, _, h =>
    (rule_gives_canonical s r scope).bind fun _ hvalues =>
      rules_give_canonical s rest scope (h.override hvalues)

theorem recover_gives_canonical (s : Setting) (selector : String) : (recovery : Recovery) →
    (recover s selector recovery).Gives Members.IsCanonical
  | .none => Pass.gives_fail _
  | .bail warning => Pass.gives_bind _ fun _ m hm => by cases hm
  | .omit warning => Pass.gives_bind _ fun _ => Pass.gives_pure Members.isCanonical_nil
  | .fallback r => rule_gives_canonical s r (.element s.body)

end

end Extraction

namespace Resource

theorem isCanonical_payload {r : Resource} {d : Html.Document} {m : Members}
    (h : (r.extract d).payload = .ok m) : m.IsCanonical := by
  unfold extract at h
  dsimp only at h
  split at h
  · rename_i values hvalues
    cases h
    have hrun : (Extraction.run r d).Gives Members.IsCanonical :=
      Pass.gives_bind _ fun _ => Extraction.rules_give_canonical _ _ _ Members.isCanonical_nil
    exact hrun m hvalues
  · cases h
    exact Members.isCanonical_nil
  · cases h

theorem isCanonical_textOrNull (s : Option String) : (textOrNull s).IsCanonical :=
  (isLeaf_textOrNull s).isCanonical

theorem isCanonical_foldl {α : Type} {f : Members → α → Members}
    (hf : ∀ m a, m.IsCanonical → (f m a).IsCanonical) (l : List α) {m : Members}
    (h : m.IsCanonical) : (l.foldl f m).IsCanonical := by
  induction l generalizing m with
  | nil => exact h
  | cons a l ih => exact ih (hf m a h)

theorem isCanonical_variablesFrom (r : Resource) (u : Url)
    (groups : List (String × Option String)) : (r.variablesFrom u groups).IsCanonical := by
  refine isCanonical_foldl (fun m x hm => ?_) _ (isCanonical_foldl (fun m x hm => ?_) _
    Members.isCanonical_nil)
  · split
    · exact hm.insert (isCanonical_textOrNull _)
    · exact hm
  · exact hm.insert (isCanonical_textOrNull _)

theorem isCanonical_variables {r : Resource} {u : Url} {m : Members}
    (h : r.readVariables u = .ok (some m)) : m.IsCanonical := by
  unfold readVariables at h
  split at h
  · cases h
  · obtain ⟨groups, -, rfl⟩ := Option.map_eq_some_iff.1 (Except.ok.inj h)
    exact isCanonical_variablesFrom r u groups

end Resource

/-- Whether the objects of a page are in canonical form, as they are in every page that is harvested
    or read. -/
structure ScrapedPage.IsCanonical (p : ScrapedPage) : Prop where
  payload : p.payload.IsCanonical
  bindings : p.bindings.IsCanonical

/-- What a resource makes of a page to which it applies is canonical. -/
theorem Page.isCanonical_scrape (p : Page) (r : Resource) {bindings : Members}
    (h : r.readVariables p.url = .ok (some bindings)) (source : Job.Source) :
    (p.scrape r bindings source).IsCanonical := by
  unfold Page.scrape
  dsimp only
  split
  · rename_i payload hpayload
    exact ⟨Resource.isCanonical_payload hpayload, Resource.isCanonical_variables h⟩
  · exact ⟨Members.isCanonical_nil, Resource.isCanonical_variables h⟩

end Harvest

/-! What is read back -/

namespace Harvest

open Json Members
open Resource (record isPlain_record isPlain_arr texts_decode)

section

variable {nesting : Nesting} {v : Json}

theorem Job.Source.decodes (source : Job.Source) :
    Decodes (Job.Source.ofJson? nesting) source source.toJson := by
  intro v h
  cases source with
  | active id =>
    obtain ⟨_, hv⟩ := h.holds (by simp [AreDistinct])
    obtain ⟨content, members, htag, hm⟩ := hv.tagged? rfl
    have hid : (fieldOf members "id").required string? = some id :=
      (hm.shows "id").required (decodes_string? id)
    simp [Job.Source.ofJson?, htag, Kind.index?, List.findIdx?_cons, hm.record?, hid]
  | passive =>
    obtain ⟨_, hv⟩ := h.holds (by simp [AreDistinct])
    obtain ⟨content, members, htag, hm⟩ := hv.tagged? rfl
    simp [Job.Source.ofJson?, htag, Kind.index?, List.findIdx?_cons, hm.eq, Resource.isUnused]

theorem payload_decodes (payload : Members) : Decodes payload? payload (.obj payload) := by
  intro v h
  rw [payload?, h.canonical_eq]
  rfl

theorem ScrapedPage.decodes (p : ScrapedPage) :
    Decodes (ScrapedPage.ofJson? nesting) p p.toJson := by
  intro v h
  obtain ⟨resourceId, payload, bindings, source, warnings⟩ := p
  obtain ⟨members, hv⟩ := h.holds (by simp [AreDistinct])
  have hid : (fieldOf members "resource_id").required string? = some resourceId :=
    (hv.shows "resource_id").required (decodes_string? resourceId)
  have hpayload : (fieldOf members "payload").required payload? = some payload :=
    (hv.shows "payload").required (payload_decodes payload)
  have hbindings : (fieldOf members "variables").required payload? = some bindings :=
    (hv.shows "variables").required (payload_decodes bindings)
  have hsource : (fieldOf members "source").required (Job.Source.ofJson? nesting) = some source :=
    (hv.shows "source").required source.decodes
  have hwarnings : (fieldOf members "warnings").orDefault [] Resource.texts? = some warnings :=
    (hv.shows "warnings").orDefault (texts_decode warnings)
  simp [ScrapedPage.ofJson?, hv.record?, hid, hpayload, hbindings, hsource, hwarnings]

namespace JobResult

/-- A success is read as one, whatever its objects hold. -/
theorem success_decodes (flag : Bool) (p : ScrapedPage) :
    Decodes JobResult.ofJson? (.success flag p) (JobResult.success flag p).toJson := by
  intro v h
  obtain ⟨resourceId, payload, bindings, source, warnings⟩ := p
  obtain ⟨members, hv⟩ := h.holds (by simp [AreDistinct])
  have hflag : (fieldOf members "success").required bool? = some flag :=
    (hv.shows "success").required (decodes_bool? flag)
  have hpayload : (fieldOf members "payload").required payload? = some payload :=
    (hv.shows "payload").required (payload_decodes payload)
  have hid : (fieldOf members "resource_id").required string? = some resourceId :=
    (hv.shows "resource_id").required (decodes_string? resourceId)
  have hbindings : (fieldOf members "variables").required payload? = some bindings :=
    (hv.shows "variables").required (payload_decodes bindings)
  have hsource : (fieldOf members "job").required (Job.Source.ofJson? .inner) = some source :=
    (hv.shows "job").required source.decodes
  have hwarnings : (fieldOf members "warnings").orDefault [] Resource.texts? = some warnings :=
    (hv.shows "warnings").orDefault (texts_decode warnings)
  simp [JobResult.ofJson?, successOf?, hv.record?, hflag, hid, hpayload, hbindings, hsource,
    hwarnings]

/-- A failure is no success, as it has no payload. -/
theorem failure_decodes (flag : Bool) (resourceId : String) (source : Job.Source) (error : String) :
    Decodes JobResult.ofJson? (.failure flag resourceId source error)
      (JobResult.failure flag resourceId source error).toJson := by
  intro v h
  obtain ⟨members, hv⟩ := h.holds (by simp [AreDistinct])
  have hflag : (fieldOf members "success").required bool? = some flag :=
    (hv.shows "success").required (decodes_bool? flag)
  have hpayload : (fieldOf members "payload").required payload? = none :=
    (hv.shows "payload").required_none
  have hid : (fieldOf members "resource_id").required string? = some resourceId :=
    (hv.shows "resource_id").required (decodes_string? resourceId)
  have hsource : (fieldOf members "source").required (Job.Source.ofJson? .inner) = some source :=
    (hv.shows "source").required source.decodes
  have herror : (fieldOf members "error").required string? = some error :=
    (hv.shows "error").required (decodes_string? error)
  simp [JobResult.ofJson?, successOf?, failureOf?, hv.record?, hflag, hpayload, hid, hsource,
    herror]

theorem decodes (r : JobResult) : Decodes JobResult.ofJson? r r.toJson := by
  cases r with
  | success flag p => exact success_decodes flag p
  | failure flag resourceId source error => exact failure_decodes flag resourceId source error

end JobResult

end

/-! Pages that are read are canonical -/

theorem isCanonical_of_payload? {v : Json} {m : Members} (h : payload? v = some m) :
    m.IsCanonical := by
  have hcanonical := isCanonical_canonical v
  unfold payload? object? at h
  split at h
  · rename_i members hmembers
    cases h
    rw [hmembers] at hcanonical
    exact hcanonical
  · cases h

theorem isCanonical_of_required {field : Field} {m : Members}
    (h : field.required payload? = some m) : m.IsCanonical := by
  cases field with
  | given v => exact isCanonical_of_payload? h
  | absent => cases h
  | cut => cases h

theorem ScrapedPage.isCanonical_of_ofJson? {nesting : Nesting} {v : Json} {p : ScrapedPage}
    (h : ScrapedPage.ofJson? nesting v = some p) : p.IsCanonical := by
  unfold ScrapedPage.ofJson? at h
  split at h
  · simp only [Option.bind_eq_bind, Option.bind_eq_some_iff] at h
    obtain ⟨id, -, payload, hpayload, bindings, hbindings, source, -, warnings, -, h⟩ := h
    cases h
    exact ⟨isCanonical_of_required hpayload, isCanonical_of_required hbindings⟩
  · cases h

/-! What is written is canonical -/

theorem Job.Source.isPlain (source : Job.Source) : source.toJson.IsPlain := by
  cases source <;> exact isPlain_record (by simp [IsPlain.str])

theorem isPlain_textsJson (texts : List String) : (textsJson texts).IsPlain :=
  isPlain_arr fun _ _ => .str

theorem isCanonical_record {members : List (String × Json)} (h : ∀ m ∈ members, m.2.IsCanonical) :
    (record members).IsCanonical :=
  isCanonical_obj.2 ⟨isSorted_ofList members, fun m hm => h m (mem_of_mem_ofList hm)⟩

theorem ScrapedPage.IsCanonical.toJson {p : ScrapedPage} (h : p.IsCanonical) :
    p.toJson.IsCanonical := by
  have hpayload : (Json.obj p.payload).IsCanonical := h.payload
  have hbindings : (Json.obj p.bindings).IsCanonical := h.bindings
  exact isCanonical_record (by
    simp [isCanonical_str, hpayload, hbindings, p.source.isPlain.isCanonical,
      (isPlain_textsJson p.warnings).isCanonical])

namespace JobResult

theorem isCanonical_success (flag : Bool) {p : ScrapedPage} (h : p.IsCanonical) :
    (JobResult.success flag p).toJson.IsCanonical := by
  have hpayload : (Json.obj p.payload).IsCanonical := h.payload
  have hbindings : (Json.obj p.bindings).IsCanonical := h.bindings
  exact isCanonical_record (by
    simp [isCanonical_bool, isCanonical_str, hpayload, hbindings, p.source.isPlain.isCanonical,
      (isPlain_textsJson p.warnings).isCanonical])

theorem isReadable_success (flag : Bool) {p : ScrapedPage}
    (hpayload : (Json.obj p.payload).IsReadable) (hbindings : (Json.obj p.bindings).IsReadable) :
    (JobResult.success flag p).toJson.IsReadable := by
  refine .obj fun m hm => ?_
  have hmembers : ∀ m ∈ [("success", Json.bool flag), ("payload", .obj p.payload),
      ("resource_id", .str p.resourceId), ("variables", .obj p.bindings),
      ("job", p.source.toJson), ("warnings", textsJson p.warnings)], m.2.IsReadable := by
    simp [IsReadable.bool, IsReadable.str, hpayload, hbindings, p.source.isPlain.isReadable,
      (isPlain_textsJson p.warnings).isReadable]
  exact hmembers m (mem_of_mem_ofList hm)

theorem isPlain_failure (flag : Bool) (resourceId : String) (source : Job.Source)
    (error : String) : (JobResult.failure flag resourceId source error).toJson.IsPlain :=
  isPlain_record (by simp [IsPlain.bool, IsPlain.str, source.isPlain])

/-- A page whose payload has the members of a failure. -/
def lookalike : ScrapedPage where
  resourceId := "r"
  payload := [("error", .str "e"), ("resource_id", .int (-7)),
    ("source", .obj [("kind", .str "passive")]), ("success", .bool false)]
  bindings := [("job", .null)]
  source := .active "j"
  warnings := ["w"]

end JobResult

end Harvest
