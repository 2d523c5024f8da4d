import Harvest.Proofs.Json.RoundTrip
import Harvest.Resource.Decode
import Harvest.Resource.Encode
/-!
Resources that are written are read back, whatever the order of members. They are written in
canonical form and without numbers. Rules are read back with the recoveries inside of them, given
enough steps for what is written; files of resources are read back as a bare list and as a catalog,
and none is taken for the other.
-/

/-! What is written -/

namespace Harvest.Resource

open Json Members

theorem isPlain_record {members : List (String × Json)} (h : ∀ m ∈ members, m.2.IsPlain) :
    (record members).IsPlain :=
  .obj (isSorted_ofList members) fun m hm => h m (mem_of_mem_ofList hm)

theorem isPlain_nullable (s : Option String) : (nullable s).IsPlain := by
  cases s with
  | none => exact .null
  | some s => exact .str

theorem isPlain_arr {α : Type} {f : α → Json} {xs : List α} (h : ∀ x ∈ xs, (f x).IsPlain) :
    (arr (xs.map f)).IsPlain := by
  refine .arr fun v hv => ?_
  obtain ⟨x, hx, rfl⟩ := List.mem_map.1 hv
  exact h x hx

theorem isPlain_optional {name : String} {o : Option Json} (h : ∀ w, o = some w → w.IsPlain) :
    ∀ m ∈ optional name o, m.2.IsPlain := by
  cases o with
  | none => simp [optional]
  | some w => simpa [optional] using h w rfl

theorem TrimPart.isPlain (p : TrimPart) : p.toJson.IsPlain := by
  cases p <;> exact .str

theorem isPlain_castJson (target : String) (options : Option (Option String)) :
    (castJson target options).IsPlain := by
  refine isPlain_record (List.forall_mem_append.2 ⟨by simp [IsPlain.str], isPlain_optional ?_⟩)
  intro w hw
  obtain ⟨locale, -, rfl⟩ := Option.map_eq_some_iff.1 hw
  exact isPlain_record (by simp [isPlain_nullable])

theorem Transformer.isPlain (t : Transformer) : t.toJson.IsPlain := by
  cases t with
  | regex => exact isPlain_record (by simp [IsPlain.str, isPlain_nullable])
  | toNumber options => exact isPlain_castJson _ options
  | toUrl options => exact isPlain_castJson _ options
  | fallback => exact isPlain_record (by simp [IsPlain.str])
  | trim parts =>
    exact isPlain_record (by simp [IsPlain.str, isPlain_arr fun p _ => TrimPart.isPlain p])
  | unrecognized => exact isPlain_record (by simp [IsPlain.str])

theorem Source.isPlain (source : Source) : ∀ m ∈ source.members, m.2.IsPlain := by
  cases source <;> simp [Source.members, IsPlain.str, isPlain_nullable]

theorem Extractor.isPlain (e : Extractor) : e.toJson.IsPlain :=
  isPlain_record (List.forall_mem_append.2
    ⟨e.source.isPlain, by simp [IsPlain.str, isPlain_arr fun t _ => Transformer.isPlain t]⟩)

theorem isPlain_extractors (es : List Extractor) : (arr (es.map Extractor.toJson)).IsPlain :=
  isPlain_arr fun e _ => e.isPlain

mutual

theorem Rule.isPlain (r : Rule) : r.toJson.IsPlain :=
  match r with
  | .node selector extractors recovery =>
    isPlain_record (List.forall_mem_append.2
      ⟨by simp [IsPlain.str, isPlain_nullable, isPlain_extractors],
        isPlain_optional recovery.isPlain⟩)
  | .array key selector fields =>
    have hfields : (arr (rulesJson fields)).IsPlain := .arr (isPlain_rules fields)
    isPlain_record (by simp [IsPlain.str, hfields])

theorem Recovery.isPlain (c : Recovery) : ∀ w, c.toJson? = some w → w.IsPlain :=
  match c with
  | .none => nofun
  | .bail warning => fun w hw => by
    cases hw
    exact isPlain_record (by simp [IsPlain.str, isPlain_nullable])
  | .omit warning => fun w hw => by
    cases hw
    exact isPlain_record (by simp [IsPlain.str, isPlain_nullable])
  | .fallback rule => fun w hw => by
    have hrule := rule.isPlain
    cases hw
    exact isPlain_record (by simp [IsPlain.str, hrule])

theorem isPlain_rules (rules : List Rule) : ∀ w ∈ rulesJson rules, w.IsPlain :=
  match rules with
  | [] => nofun
  | r :: rest => List.forall_mem_cons.2 ⟨r.isPlain, isPlain_rules rest⟩

end

theorem PageRule.isPlain (r : PageRule) : r.toJson.IsPlain :=
  isPlain_record (List.forall_mem_append.2
    ⟨by simp [isPlain_nullable, isPlain_extractors], isPlain_optional r.recovery.isPlain⟩)

theorem isPlain_text {name : String} {o : Option String} :
    ∀ m ∈ optional name (o.map .str), m.2.IsPlain :=
  isPlain_optional fun w hw => by
    obtain ⟨s, -, rfl⟩ := Option.map_eq_some_iff.1 hw
    exact .str

theorem Variable.isPlain (x : Variable) : x.toJson.IsPlain := by
  refine isPlain_record ?_
  simp only [List.forall_mem_append]
  refine ⟨⟨⟨?_, isPlain_text⟩, ?_⟩, isPlain_text⟩
  · simp [IsPlain.str]
  · simp [IsPlain.str]

theorem isPlain (r : Resource) : r.toJson.IsPlain := by
  refine isPlain_record ?_
  simp only [List.forall_mem_append]
  refine ⟨⟨?_, isPlain_optional fun w hw => ?_⟩, ?_⟩
  · simp [IsPlain.str, isPlain_arr fun x _ => Variable.isPlain x,
      isPlain_arr fun x _ => PageRule.isPlain x]
  · obtain ⟨texts, -, rfl⟩ := Option.map_eq_some_iff.1 hw
    exact isPlain_arr fun _ _ => .str
  · have hrules : (arr (rulesJson r.descriptors)).IsPlain := .arr (isPlain_rules r.descriptors)
    simp [IsPlain.str, IsPlain.bool, hrules]

/-! What is read back -/

section

variable {nesting : Nesting} {v : Json}

theorem get?_optional (name key : String) (o : Option Json) :
    Members.get? key (optional name o) = if name = key then o else none := by
  cases o <;> simp [optional, Members.get?]

theorem str_ne_null (s : String) : Json.str s ≠ .null := nofun

theorem record_ne_null (members : List (String × Json)) : record members ≠ .null := nofun

theorem arr_ne_null (items : List Json) : Json.arr items ≠ .null := nofun

theorem TrimPart.decodes (p : TrimPart) : Decodes TrimPart.ofJson? p p.toJson := by
  intro v h
  cases p <;> rw [Rearranges.str h] <;> rfl

theorem forcedLocale_decodes (locale : Option String) :
    Decodes forcedLocale? locale (record [("force_locale", nullable locale)]) := by
  intro v h
  obtain ⟨members, hv⟩ := h.holds (by simp [AreDistinct])
  have hlocale : (fieldOf members "force_locale").nullable string? = some locale :=
    (hv.shows "force_locale").nullable_ofOption str_ne_null decodes_string?
  simp [forcedLocale?, hv.record?, hlocale]

theorem innerChoice_decodes {names : List String} {s : String} {n : Nat}
    (h : names.findIdx? (· = s) = some n) : Decodes (innerChoice? names) n (.str s) := by
  intro v hv
  rw [hv.str]
  exact h

theorem castOf?_eq {content : Json} {members : Members} {target : String} {n : Nat}
    {options : Option (Option String)}
    (h : content.Holds (("type", .str target) ::
      optional "options" (options.map fun locale => record [("force_locale", nullable locale)]))
      members) (hn : ["number", "url"].findIdx? (· = target) = some n) :
    castOf? content = some (if n = 0 then .toNumber options else .toUrl options) := by
  have htype : (fieldOf members "type").required (innerChoice? ["number", "url"]) = some n :=
    (h.shows "type").required (innerChoice_decodes hn)
  have hoptions : (fieldOf members "options").nullable forcedLocale? = some options := by
    have hshows := h.shows "options"
    simp only [Members.get?, get?_optional] at hshows
    exact hshows.nullable_map (fun _ => record_ne_null _) forcedLocale_decodes
  simp [castOf?, h.record?, htype, hoptions]

theorem castJson_holds {target : String} {options : Option (Option String)}
    (h : v.Rearranges (castJson target options)) : ∃ content members,
      tagged? v = some (.named "transformer:cast", content) ∧
        content.Holds (("type", .str target) ::
          optional "options" (options.map fun locale => record [("force_locale", nullable locale)]))
          members := by
  obtain ⟨_, hv⟩ := h.holds (by cases options <;> simp [AreDistinct, optional])
  exact hv.tagged? (by simp [Members.get?, get?_optional])

theorem Transformer.decodes (t : Transformer) :
    Decodes (Transformer.ofJson? nesting) t t.toJson := by
  intro v h
  cases t with
  | regex pattern replacement =>
    obtain ⟨_, hv⟩ := h.holds (by simp [AreDistinct])
    obtain ⟨content, members, htag, hc⟩ := hv.tagged? rfl
    have hpattern : (fieldOf members "regex").required string? = some pattern :=
      (hc.shows "regex").required (decodes_string? pattern)
    have hreplacement : (fieldOf members "replacement").nullable string? = some replacement :=
      (hc.shows "replacement").nullable_ofOption str_ne_null decodes_string?
    simp [Transformer.ofJson?, htag, Kind.index?, transformerKinds, List.findIdx?_cons, hc.record?,
      hpattern, hreplacement]
  | toNumber options =>
    obtain ⟨content, members, htag, hc⟩ := castJson_holds h
    simp [Transformer.ofJson?, htag, Kind.index?, transformerKinds, List.findIdx?_cons,
      castOf?_eq hc rfl]
  | toUrl options =>
    obtain ⟨content, members, htag, hc⟩ := castJson_holds h
    simp [Transformer.ofJson?, htag, Kind.index?, transformerKinds, List.findIdx?_cons,
      castOf?_eq hc rfl]
  | fallback value =>
    obtain ⟨_, hv⟩ := h.holds (by simp [AreDistinct])
    obtain ⟨content, members, htag, hc⟩ := hv.tagged? rfl
    have hvalue : (fieldOf members "value").required string? = some value :=
      (hc.shows "value").required (decodes_string? value)
    simp [Transformer.ofJson?, htag, Kind.index?, transformerKinds, List.findIdx?_cons, hc.record?,
      hvalue]
  | trim parts =>
    obtain ⟨_, hv⟩ := h.holds (by simp [AreDistinct])
    obtain ⟨content, members, htag, hc⟩ := hv.tagged? rfl
    have hparts : (fieldOf members "options").required (list? TrimPart.ofJson?) = some parts :=
      (hc.shows "options").required (decodes_list? fun p _ => TrimPart.decodes p)
    simp [Transformer.ofJson?, htag, Kind.index?, transformerKinds, List.findIdx?_cons, hc.record?,
      hparts]
  | unrecognized =>
    obtain ⟨_, hv⟩ := h.holds (by simp [AreDistinct])
    obtain ⟨content, members, htag, hc⟩ := hv.tagged? rfl
    simp [Transformer.ofJson?, htag, Kind.index?, transformerKinds, List.findIdx?_cons, hc.eq,
      isUnused]

theorem transformers_decode (ts : List Transformer) :
    Decodes transformers? ts (.arr (ts.map Transformer.toJson)) :=
  decodes_list? fun t _ => t.decodes

/-- The fields that every extractor has. -/
theorem Extractor.shared_fields {content : Json} {ms members : Members} {key : String}
    {transformers : List Transformer} (h : content.Holds ms members)
    (hkey : ms.get? "key" = some (.str key))
    (hchain : ms.get? "transformers" = some (.arr (transformers.map Transformer.toJson))) :
    (fieldOf members "key").required string? = some key ∧
      (fieldOf members "transformers").orDefault [] transformers? = some transformers := by
  have hkey' := h.shows "key"
  have hchain' := h.shows "transformers"
  rw [hkey] at hkey'
  rw [hchain] at hchain'
  exact ⟨hkey'.required (decodes_string? key), hchain'.orDefault (transformers_decode transformers)⟩

theorem Extractor.decodes (e : Extractor) : Decodes (Extractor.ofJson? nesting) e e.toJson := by
  intro v h
  obtain ⟨source, key, transformers⟩ := e
  match source with
  | .text =>
    obtain ⟨_, hv⟩ := h.holds (by simp [AreDistinct, Source.members])
    obtain ⟨content, members, htag, hc⟩ := hv.tagged? rfl
    obtain ⟨hkey, hchain⟩ := Extractor.shared_fields hc rfl rfl
    simp [Extractor.ofJson?, htag, Kind.index?, extractorKinds, List.findIdx?_cons, hc.record?,
      hkey, hchain]
  | .attribute name =>
    obtain ⟨_, hv⟩ := h.holds (by simp [AreDistinct, Source.members])
    obtain ⟨content, members, htag, hc⟩ := hv.tagged? rfl
    obtain ⟨hkey, hchain⟩ := Extractor.shared_fields hc rfl rfl
    have hname : (fieldOf members "attribute").required string? = some name :=
      (hc.shows "attribute").required (decodes_string? name)
    simp [Extractor.ofJson?, htag, Kind.index?, extractorKinds, List.findIdx?_cons, hc.record?,
      hkey, hname, hchain]
  | .style declaration pseudo =>
    obtain ⟨_, hv⟩ := h.holds (by simp [AreDistinct, Source.members])
    obtain ⟨content, members, htag, hc⟩ := hv.tagged? rfl
    obtain ⟨hkey, hchain⟩ := Extractor.shared_fields hc rfl rfl
    have hdeclaration : (fieldOf members "declaration").required string? = some declaration :=
      (hc.shows "declaration").required (decodes_string? declaration)
    have hpseudo : (fieldOf members "pseudo").nullable string? = some pseudo :=
      (hc.shows "pseudo").nullable_ofOption str_ne_null decodes_string?
    simp [Extractor.ofJson?, htag, Kind.index?, extractorKinds, List.findIdx?_cons, hc.record?,
      hkey, hdeclaration, hpseudo, hchain]

theorem extractors_decode (es : List Extractor) :
    Decodes (list? (Extractor.ofJson? nesting)) es (.arr (es.map Extractor.toJson)) :=
  decodes_list? fun e _ => e.decodes

theorem depth_lt_record {ms : List (String × Json)} {w : Json} (hms : AreDistinct ms)
    (name : String) (h : Members.get? name ms = some w) : w.depth < (record ms).depth :=
  depth_lt_obj (mem_of_get? (hms.get?_ofList.trans h))

theorem rulesJson_eq (rules : List Rule) : rulesJson rules = rules.map Rule.toJson := by
  induction rules with
  | nil => rfl
  | cons r rest ih => rw [rulesJson, ih, List.map_cons]

/-- Whether a rule is read back, given two steps for each level of what is written. -/
def Rule.IsDecoded (r : Rule) : Prop :=
  ∀ ⦃nesting : Nesting⦄ ⦃fuel : Nat⦄, 2 * r.toJson.depth ≤ fuel →
    Decodes (ruleWithin? nesting fuel) r r.toJson

def Recovery.IsDecoded (c : Recovery) : Prop :=
  ∀ ⦃nesting : Nesting⦄ ⦃fuel : Nat⦄ ⦃w : Json⦄, c.toJson? = some w → 2 * w.depth ≤ fuel →
    Decodes (recoveryWithin? nesting fuel) c w

theorem Recovery.toJson?_ne_null {c : Recovery} {w : Json} (h : c.toJson? = some w) :
    w ≠ .null := by
  rintro rfl
  cases c <;> simp [Recovery.toJson?, record] at h

theorem Recovery.eq_none {c : Recovery} (h : c.toJson? = Option.none) : c = .none := by
  cases c with
  | none => rfl
  | _ => simp [Recovery.toJson?] at h

theorem Recovery.IsDecoded.field {c : Recovery} (hc : c.IsDecoded) {field : Field}
    (hshows : field.Shows c.toJson?) {fuel : Nat}
    (hfuel : ∀ w, c.toJson? = some w → 2 * w.depth ≤ fuel) :
    recoveryField? nesting (fuel + 1) field = some c := by
  cases hw : c.toJson? with
  | none =>
    rw [hw] at hshows
    obtain rfl := Recovery.eq_none hw
    simp [recoveryField?, hshows.nullable_none]
  | some w =>
    rw [hw] at hshows
    have hread : field.nullable (recoveryWithin? nesting fuel) = some (some c) :=
      hshows.nullable_some (Recovery.toJson?_ne_null hw) (hc hw (hfuel w hw))
    simp [recoveryField?, hread]

theorem Rule.node_isDecoded (selector : Option String) (extractors : List Extractor)
    {c : Recovery} (hc : c.IsDecoded) : (Rule.node selector extractors c).IsDecoded := by
  intro nesting fuel hfuel v h
  have hdistinct : AreDistinct ([("kind", .str "selector:node"), ("selector", nullable selector),
      ("extractors", .arr (extractors.map Extractor.toJson))] ++
        optional "if_missing" c.toJson?) := by
    cases c.toJson? <;> simp [AreDistinct, optional]
  have hkind : 1 < (Rule.node selector extractors c).toJson.depth :=
    depth_lt_record hdistinct "kind" rfl
  obtain ⟨fuel, rfl⟩ : ∃ f, fuel = f + 2 := ⟨fuel - 2, by omega⟩
  have hdepth : ∀ w, c.toJson? = some w → 2 * w.depth ≤ fuel := by
    intro w hw
    have hlt : w.depth < (Rule.node selector extractors c).toJson.depth :=
      depth_lt_record hdistinct "if_missing" (by simp [Members.get?, get?_optional, hw])
    omega
  obtain ⟨_, hv⟩ := h.holds hdistinct
  obtain ⟨content, members, htag, hm⟩ := hv.tagged? (by simp [Members.get?, get?_optional])
  have hselector : (fieldOf members "selector").nullable string? = some selector :=
    (hm.shows "selector").nullable_ofOption str_ne_null decodes_string?
  have hextractors : (fieldOf members "extractors").orDefault []
      (list? (Extractor.ofJson? .inner)) = some extractors :=
    (hm.shows "extractors").orDefault (extractors_decode extractors)
  have hmissing : (fieldOf members "if_missing").Shows c.toJson? := by
    simpa [Members.get?, get?_optional] using hm.shows "if_missing"
  simp [ruleWithin?, htag, Kind.index?, List.findIdx?_cons, hm.record?, hselector, hextractors,
    hc.field hmissing hdepth]

theorem Rule.array_isDecoded (key selector : String) {fields : List Rule}
    (hfields : ∀ r ∈ fields, r.IsDecoded) : (Rule.array key selector fields).IsDecoded := by
  intro nesting fuel hfuel v h
  have hdistinct : AreDistinct [("kind", .str "selector:array"), ("key", .str key),
      ("selector", .str selector), ("fields", .arr (rulesJson fields))] := by
    simp [AreDistinct]
  have hdepth : (arr (rulesJson fields)).depth < (Rule.array key selector fields).toJson.depth :=
    depth_lt_record hdistinct "fields" rfl
  obtain ⟨fuel, rfl⟩ : ∃ f, fuel = f + 1 := ⟨fuel - 1, by omega⟩
  obtain ⟨_, hv⟩ := h.holds hdistinct
  obtain ⟨content, members, htag, hm⟩ := hv.tagged? rfl
  have hkey : (fieldOf members "key").required string? = some key :=
    (hm.shows "key").required (decodes_string? key)
  have hselector : (fieldOf members "selector").required string? = some selector :=
    (hm.shows "selector").required (decodes_string? selector)
  have hrules : Decodes (list? (ruleWithin? .inner fuel)) fields (.arr (rulesJson fields)) := by
    rw [rulesJson_eq] at hdepth ⊢
    refine decodes_list? fun r hr => hfields r hr ?_
    have hlt : r.toJson.depth < (arr (fields.map Rule.toJson)).depth :=
      depth_lt_arr (List.mem_map_of_mem hr)
    omega
  have hread : (fieldOf members "fields").orDefault [] (list? (ruleWithin? .inner fuel)) =
      some fields :=
    (hm.shows "fields").orDefault hrules
  simp [ruleWithin?, htag, Kind.index?, List.findIdx?_cons, hm.record?, hkey, hselector, hread]

theorem Recovery.none_isDecoded : Recovery.none.IsDecoded := nofun

theorem warning_reread {kind : String} {warning : Option String}
    (h : v.Rearranges (record [("kind", .str kind), ("warning", nullable warning)])) :
    ∃ content, tagged? v = some (.named kind, content) ∧ warning? content = some warning := by
  obtain ⟨_, hv⟩ := h.holds (by simp [AreDistinct])
  obtain ⟨content, members, htag, hm⟩ := hv.tagged? rfl
  have hwarning : (fieldOf members "warning").nullable string? = some warning :=
    (hm.shows "warning").nullable_ofOption str_ne_null decodes_string?
  exact ⟨content, htag, by simp [warning?, hm.record?, hwarning]⟩

theorem Recovery.bail_isDecoded (warning : Option String) : (Recovery.bail warning).IsDecoded := by
  rintro nesting fuel w ⟨⟩ hfuel v h
  obtain ⟨content, htag, hwarning⟩ := warning_reread h
  obtain ⟨fuel, rfl⟩ : ∃ f, fuel = f + 1 := ⟨fuel - 1, by simp [record, depth] at hfuel; omega⟩
  simp [recoveryWithin?, htag, Kind.index?, recoveryKinds, List.findIdx?_cons, hwarning]

theorem Recovery.omit_isDecoded (warning : Option String) : (Recovery.omit warning).IsDecoded := by
  rintro nesting fuel w ⟨⟩ hfuel v h
  obtain ⟨content, htag, hwarning⟩ := warning_reread h
  obtain ⟨fuel, rfl⟩ : ∃ f, fuel = f + 1 := ⟨fuel - 1, by simp [record, depth] at hfuel; omega⟩
  simp [recoveryWithin?, htag, Kind.index?, recoveryKinds, List.findIdx?_cons, hwarning]

theorem Recovery.fallback_isDecoded {r : Rule} (hr : r.IsDecoded) :
    (Recovery.fallback r).IsDecoded := by
  rintro nesting fuel w ⟨⟩ hfuel v h
  have hdistinct : AreDistinct [("kind", .str "recovery:fallback"), ("selector", r.toJson)] := by
    simp [AreDistinct]
  have hdepth := depth_lt_record hdistinct "selector" rfl
  obtain ⟨fuel, rfl⟩ : ∃ f, fuel = f + 1 := ⟨fuel - 1, by omega⟩
  obtain ⟨_, hv⟩ := h.holds hdistinct
  obtain ⟨content, members, htag, hm⟩ := hv.tagged? rfl
  have hrule : (fieldOf members "selector").required (ruleWithin? .inner fuel) = some r :=
    (hm.shows "selector").required (hr (by omega))
  simp [recoveryWithin?, htag, Kind.index?, recoveryKinds, List.findIdx?_cons, hm.record?, hrule]

mutual

theorem Rule.isDecoded (r : Rule) : r.IsDecoded :=
  match r with
  | .node selector extractors recovery =>
    Rule.node_isDecoded selector extractors recovery.isDecoded
  | .array key selector fields => Rule.array_isDecoded key selector (rules_areDecoded fields)

theorem Recovery.isDecoded (c : Recovery) : c.IsDecoded :=
  match c with
  | .none => Recovery.none_isDecoded
  | .bail warning => Recovery.bail_isDecoded warning
  | .omit warning => Recovery.omit_isDecoded warning
  | .fallback rule => Recovery.fallback_isDecoded rule.isDecoded

theorem rules_areDecoded (rules : List Rule) : ∀ r ∈ rules, r.IsDecoded :=
  match rules with
  | [] => nofun
  | r :: rest => List.forall_mem_cons.2 ⟨r.isDecoded, rules_areDecoded rest⟩

end

theorem Rule.decodes (r : Rule) : Decodes (Rule.ofJson? nesting) r r.toJson := by
  intro v h
  have hdepth := h.depth_le
  exact r.isDecoded (by unfold enough; omega) h

theorem PageRule.decodes (r : PageRule) : Decodes (PageRule.ofJson? nesting) r r.toJson := by
  intro v h
  obtain ⟨selector, extractors, recovery⟩ := r
  have hdistinct : AreDistinct ([("selector", nullable selector),
      ("extractors", .arr (extractors.map Extractor.toJson))] ++
        optional "if_missing" recovery.toJson?) := by
    cases recovery.toJson? <;> simp [AreDistinct, optional]
  obtain ⟨members, hv⟩ := h.holds hdistinct
  have hselector : (fieldOf members "selector").nullable string? = some selector :=
    (hv.shows "selector").nullable_ofOption str_ne_null decodes_string?
  have hextractors : (fieldOf members "extractors").orDefault []
      (list? (Extractor.ofJson? nesting)) = some extractors :=
    (hv.shows "extractors").orDefault (extractors_decode extractors)
  have hmissing : (fieldOf members "if_missing").Shows recovery.toJson? := by
    simpa [Members.get?, get?_optional] using hv.shows "if_missing"
  have hrecovery : recoveryField? nesting (enough v) (fieldOf members "if_missing") =
      some recovery := by
    refine recovery.isDecoded.field hmissing fun w hw => ?_
    have hlt : w.depth < (PageRule.mk selector extractors recovery).toJson.depth :=
      depth_lt_record hdistinct "if_missing" (by simp [Members.get?, get?_optional, hw])
    have hle := h.depth_le
    omega
  simp [PageRule.ofJson?, hv.record?, hselector, hextractors, hrecovery]

theorem Variable.decodes (x : Variable) : Decodes Variable.ofJson? x x.toJson := by
  intro v h
  obtain ⟨kind, identifier, label, description, default⟩ := x
  obtain ⟨members, hv⟩ := h.holds (by
    cases label <;> cases default <;> simp [AreDistinct, optional])
  have hkind : (fieldOf members "kind").required (choice? ["url", "query"]) =
      some (if kind = .url then 0 else 1) := by
    refine (hv.shows "kind").required fun w hw => ?_
    cases kind <;> rw [hw.str] <;> rfl
  have hidentifier : (fieldOf members "identifier").required string? = some identifier :=
    (hv.shows "identifier").required (decodes_string? identifier)
  have hlabel : (fieldOf members "alias").nullable string? = some label := by
    have hshows : (fieldOf members "alias").Shows (label.map .str) := by
      simpa [Members.get?, get?_append, get?_optional] using hv.shows "alias"
    exact hshows.nullable_map str_ne_null decodes_string?
  have hdescription : (fieldOf members "description").orDefault "" string? = some description := by
    have hshows : (fieldOf members "description").Shows (some (.str description)) := by
      simpa [Members.get?, get?_append, get?_optional] using hv.shows "description"
    exact hshows.orDefault (decodes_string? description)
  have hdefault : (fieldOf members "default").nullable string? = some default := by
    have hshows : (fieldOf members "default").Shows (default.map .str) := by
      simpa [Members.get?, get?_append, get?_optional] using hv.shows "default"
    exact hshows.nullable_map str_ne_null decodes_string?
  cases kind <;>
    simp [Variable.ofJson?, hv.record?, hkind, hidentifier, hlabel, hdescription, hdefault]

theorem texts_decode (texts : List String) : Decodes texts? texts (.arr (texts.map .str)) :=
  decodes_list? fun s _ => decodes_string? s

theorem decodes (r : Resource) : Decodes (Resource.ofJson? nesting) r r.toJson := by
  intro v h
  obtain ⟨id, hostname, pattern, inputs, pageRules, waitFor, descriptors, hash, disabled⟩ := r
  obtain ⟨members, hv⟩ := h.holds (by cases waitFor <;> simp [AreDistinct, optional])
  have hid : (fieldOf members "id").required string? = some id :=
    (hv.shows "id").required (decodes_string? id)
  have hhostname : (fieldOf members "hostname").required string? = some hostname :=
    (hv.shows "hostname").required (decodes_string? hostname)
  have hpattern : (fieldOf members "url_pattern").required string? = some pattern :=
    (hv.shows "url_pattern").required (decodes_string? pattern)
  have hinputs : (fieldOf members "variables").orDefault [] (list? Variable.ofJson?) =
      some inputs :=
    (hv.shows "variables").orDefault (decodes_list? fun x _ => x.decodes)
  have hpageRules : (fieldOf members "meta").orDefault [] (list? (PageRule.ofJson? nesting)) =
      some pageRules :=
    (hv.shows "meta").orDefault (decodes_list? fun r _ => r.decodes)
  have hwaitFor : (fieldOf members "wait_for").nullable texts? = some waitFor := by
    have hshows : (fieldOf members "wait_for").Shows (waitFor.map fun w => .arr (w.map .str)) := by
      simpa [Members.get?, get?_append, get?_optional] using hv.shows "wait_for"
    exact hshows.nullable_map (fun _ => arr_ne_null _) texts_decode
  have hdescriptors : (fieldOf members "descriptors").orDefault [] (list? (Rule.ofJson? nesting)) =
      some descriptors := by
    have hshows : (fieldOf members "descriptors").Shows (some (.arr (rulesJson descriptors))) := by
      simpa [Members.get?, get?_append, get?_optional] using hv.shows "descriptors"
    rw [rulesJson_eq] at hshows
    exact hshows.orDefault (decodes_list? fun r _ => r.decodes)
  have hhash : (fieldOf members "hash").required string? = some hash := by
    have hshows : (fieldOf members "hash").Shows (some (.str hash)) := by
      simpa [Members.get?, get?_append, get?_optional] using hv.shows "hash"
    exact hshows.required (decodes_string? hash)
  have hdisabled : (fieldOf members "disabled").orDefault false bool? = some disabled := by
    have hshows : (fieldOf members "disabled").Shows (some (.bool disabled)) := by
      simpa [Members.get?, get?_append, get?_optional] using hv.shows "disabled"
    exact hshows.orDefault (decodes_bool? disabled)
  simp [Resource.ofJson?, fieldNames, hv.record?, hid, hhostname, hpattern, hinputs, hpageRules,
    hwaitFor, hdescriptors, hhash, hdisabled]

/-- Resources as they are written without a catalog. -/
def listJson (rs : List Resource) : Json := .arr (rs.map Resource.toJson)

/-- A catalog as it is written. -/
def Catalog.toJson (c : Catalog) : Json :=
  record [("name", .str c.name), ("resources", listJson c.resources)]

theorem list_decodes (rs : List Resource) : Decodes (listOfJson? nesting) rs (listJson rs) :=
  decodes_list? fun r _ => r.decodes

theorem Catalog.decodes (c : Catalog) : Decodes (Catalog.ofJson? nesting) c c.toJson := by
  intro v h
  obtain ⟨name, resources⟩ := c
  obtain ⟨members, hv⟩ := h.holds (by simp [AreDistinct])
  have hname : (fieldOf members "name").required string? = some name :=
    (hv.shows "name").required (decodes_string? name)
  have hresources : (fieldOf members "resources").required (listOfJson? nesting) = some resources :=
    (hv.shows "resources").required (list_decodes resources)
  simp [Catalog.ofJson?, hv.record?, hname, hresources]

/-- A list of resources is not taken for a catalog, whose first field is a text. -/
theorem Catalog.ofJson?_list {rs : List Resource} (h : v.Rearranges (listJson rs)) :
    Catalog.ofJson? nesting v = none := by
  obtain ⟨items, rfl, -, heq⟩ := h.arr
  match items, rs with
  | [], _ => rfl
  | _ :: _, [] => cases heq
  | first :: rest, r :: _ =>
    have hfirst : string? first = none := by
      have hcanonical : first.canonical = r.toJson := (List.cons.inj heq).1
      cases first with
      | str s => cases hcanonical
      | _ => rfl
    match rest with
    | [] => simp [Catalog.ofJson?, record?, fieldsOfArray, Field.required, hfirst]
    | [_] => simp [Catalog.ofJson?, record?, fieldsOfArray, Field.required, hfirst]
    | _ :: _ :: _ => rfl

theorem listOfJson?_catalog {c : Catalog} (h : v.Rearranges c.toJson) :
    listOfJson? nesting v = none := by
  obtain ⟨members, hv⟩ := h.holds (by simp [AreDistinct])
  rw [hv.eq]
  rfl

theorem isPlain_listJson (rs : List Resource) : (listJson rs).IsPlain :=
  isPlain_arr fun r _ => Resource.isPlain r

theorem Catalog.isPlain (c : Catalog) : c.toJson.IsPlain :=
  isPlain_record (by simp [IsPlain.str, isPlain_listJson])

theorem parseFile_list {rs : List Resource} (h : v.Rearranges (listJson rs))
    (hnesting : v.nesting ≤ Reader.maxDepth) : parseFile v.compact = .ok rs := by
  have hparse : Json.parse? v.compact = some v :=
    parse?_compact (h.isReadable (isPlain_listJson rs).isReadable) hnesting
  have hcatalog : Catalog.ofJson? .inner v = none := Catalog.ofJson?_list h
  simp [parseFile, hparse, hcatalog, list_decodes rs h]

theorem parseFile_catalog {c : Catalog} (h : v.Rearranges c.toJson)
    (hnesting : v.nesting ≤ Reader.maxDepth) : parseFile v.compact = .ok c.resources := by
  have hparse : Json.parse? v.compact = some v :=
    parse?_compact (h.isReadable c.isPlain.isReadable) hnesting
  simp [parseFile, hparse, c.decodes h]

end

/-- Resources that are written, in whatever order of members, are read back as they were: as a bare
    list and in a catalog, from values and from text. A list is never taken for a catalog and a
    catalog never for a list. -/
theorem written_resources_reread (rs : List Resource) (name : String) :
    (listJson rs).IsCanonical ∧ (Catalog.mk name rs).toJson.IsCanonical ∧
    (∀ nesting v, v.Rearranges (listJson rs) →
      listOfJson? nesting v = some rs ∧ Catalog.ofJson? nesting v = none ∧
        (v.nesting ≤ Reader.maxDepth → parseFile v.compact = .ok rs)) ∧
    ∀ nesting v, v.Rearranges (Catalog.mk name rs).toJson →
      Catalog.ofJson? nesting v = some ⟨name, rs⟩ ∧ listOfJson? nesting v = none ∧
        (v.nesting ≤ Reader.maxDepth → parseFile v.compact = .ok rs) := by
  refine ⟨(isPlain_listJson rs).isCanonical, (Catalog.mk name rs).isPlain.isCanonical, ?_, ?_⟩
  · intro nesting v h
    exact ⟨list_decodes rs h, Catalog.ofJson?_list h, parseFile_list h⟩
  · intro nesting v h
    exact ⟨Catalog.decodes _ h, listOfJson?_catalog h, parseFile_catalog h⟩

/-- A resource with a rule inside of a recovery and a transformer that is not known. -/
def nestedResource : Resource :=
  ⟨"a", "example.com", "/p", [], [], none,
    [.node none [⟨.text, "title", [.unrecognized]⟩] (.fallback (.array "k" "li" []))], "h", false⟩

/-- A list that holds it, with the members in the order in which they are declared. -/
def declaredOrder : Json :=
  .arr [.obj [("id", .str "a"), ("hostname", .str "example.com"), ("url_pattern", .str "/p"),
    ("variables", .arr []), ("meta", .arr []),
    ("descriptors", .arr [.obj [("kind", .str "selector:node"), ("selector", .null),
      ("extractors", .arr [.obj [("kind", .str "extractor:text"), ("key", .str "title"),
        ("transformers", .arr [.obj [("kind", .str "Unrecognized")]])]]),
      ("if_missing", .obj [("kind", .str "recovery:fallback"),
        ("selector", .obj [("kind", .str "selector:array"), ("key", .str "k"),
          ("selector", .str "li"), ("fields", .arr [])])])]]),
    ("hash", .str "h"), ("disabled", .bool false)]]

theorem declared_order_reread : declaredOrder.Rearranges (listJson [nestedResource]) ∧
    declaredOrder.nesting ≤ Reader.maxDepth ∧
    parseFile declaredOrder.compact = .ok [nestedResource] := by
  have hrearranges : declaredOrder.Rearranges (listJson [nestedResource]) :=
    ⟨by simp [declaredOrder, AreDistinct], rfl⟩
  have hnesting : declaredOrder.nesting ≤ Reader.maxDepth := by decide
  obtain ⟨-, -, hlist, -⟩ := written_resources_reread [nestedResource] "catalog"
  exact ⟨hrearranges, hnesting, (hlist .inner _ hrearranges).2.2 hnesting⟩

end Harvest.Resource
