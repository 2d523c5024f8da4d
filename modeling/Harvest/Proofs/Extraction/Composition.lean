import Harvest.Proofs.Extraction.Steps
import Harvest.Proofs.Json.Members
/-!
Extraction by some descriptors and then by others. The others go on where the first ones came to an
end, and add their warnings and values; an error or a bail ends it all. So a payload is whole or, if
some rule at any depth bailed out, empty.
-/

namespace Harvest

def Resource.withDescriptors (r : Resource) (l : List Resource.Rule) : Resource :=
  { r with descriptors := l }

/-- The payload of an extraction that is stopped. -/
def Stop.payload : Stop → Except Error Members
  | .bailed => .ok []
  | .failed e => .error e

namespace Transform

theorem not_bails_expectText (step : Error.Step) (v : Json) : ¬(expectText step v).Bails := by
  cases v with
  | str s => exact Pass.not_bails_pure s
  | null | bool | num | arr | obj => exact Pass.not_bails_fail _

theorem not_bails_regexText (pattern : String) (replacement : Option String) (s : String) :
    ¬(regexText pattern replacement s).Bails := by
  have hgroup : ∀ r, ¬(regexText.group pattern s r).Bails := by
    intro r
    unfold regexText.group
    split
    · split
      · exact Pass.not_bails_fail _
      · exact Pass.not_bails_pure _
    · exact Pass.not_bails_fail _
  unfold regexText
  split
  · exact Pass.not_bails_fail _
  · split
    · split
      · exact hgroup _
      · exact Pass.not_bails_pure _
    · exact hgroup _

theorem not_bails_number (l : Locale) (s : String) : ¬(number l s).Bails := by
  unfold number
  split
  · exact Pass.not_bails_pure _
  · exact Pass.not_bails_warn _ _

theorem not_bails_apply (c : Context) (t : Resource.Transformer) (v : Json) :
    ¬(apply c t v).Bails := by
  cases t with
  | regex pattern replacement =>
    exact Pass.not_bails_bind (not_bails_expectText _ _) fun s => not_bails_regexText _ _ s
  | toNumber options =>
    cases v with
    | num n => exact Pass.not_bails_pure _
    | str s => exact not_bails_number _ s
    | null | bool | arr | obj => exact Pass.not_bails_fail _
  | toUrl => exact Pass.not_bails_bind (not_bails_expectText _ _) fun s => Pass.not_bails_ofExcept _
  | fallback => exact Pass.not_bails_pure _
  | trim => exact Pass.not_bails_bind (not_bails_expectText _ _) fun s => Pass.not_bails_pure _
  | unrecognized => exact Pass.not_bails_warn _ _

end Transform

namespace Extraction

open Html Resource

theorem not_bails_read (source : Source) (p : Place) : ¬(read source p).Bails := by
  unfold read
  split
  · exact Pass.not_bails_pure _
  · exact Pass.not_bails_pure _
  · split
    · exact Pass.not_bails_pure _
    · exact Pass.not_bails_warn _ _

section

variable {s : Setting} {scope : Scope} {base m : Members}

theorem rules_append (first second : List Rule) : rules s (first ++ second) scope m =
    (rules s first scope m).bind (rules s second scope) := by
  induction first generalizing m with
  | nil => rfl
  | cons r rest ih =>
    change (rule s r scope).bind _ = ((rule s r scope).bind _).bind _
    rw [Pass.bind_assoc]
    congr 1
    funext values
    exact ih

theorem rules_gives_sorted (l : List Rule) (h : m.IsSorted) :
    (rules s l scope m).Gives Members.IsSorted := by
  induction l generalizing m with
  | nil => exact Pass.gives_pure h
  | cons r rest ih => exact Pass.gives_bind _ fun values => ih (h.override values)

/-- Rules may be run by themselves first, and their values put over what there was before. -/
theorem rules_eq (l : List Rule) (h : base.IsSorted) : rules s l scope base =
    (rules s l scope []).bind fun m => .pure (base.override m) := by
  induction l generalizing base with
  | nil => rfl
  | cons r rest ih =>
    change (rule s r scope).bind _ = ((rule s r scope).bind _).bind _
    rw [Pass.bind_assoc]
    congr 1
    funext values
    -- what the rest gives by itself is put over these values on both sides
    rw [ih (h.override values), ih (Members.isSorted_nil.override values), Pass.bind_assoc]
    simp only [Pass.pure_bind, Members.override_override h]

/-- The values of rules that come to an end are those of each, one put over the other. -/
theorem rules_whole {l : List Rule} (h : (rules s l scope base).result = .ok m) :
    ∃ values : List Members, (l.map fun r => (rule s r scope).result) = values.map .ok ∧
      m = values.foldl Members.override base := by
  induction l generalizing base with
  | nil =>
    cases h
    exact ⟨[], rfl, rfl⟩
  | cons r rest ih =>
    obtain ⟨v, hv, hrest⟩ := Pass.exists_of_bind_ok h
    obtain ⟨values, hvalues, rfl⟩ := ih hrest
    exact ⟨v :: values, by simp [hv, hvalues], rfl⟩

end

section

variable {r : Resource} {d : Document} {first second l : List Rule} {values m n : Members}
variable {stop : Stop}

/-- The rules for the whole page. -/
def pagePass (r : Resource) (d : Document) : Pass Members :=
  pageRules (setting r d) r.pageRules []

/-- The descriptors, after the rules for the whole page gave some values. -/
def described (r : Resource) (d : Document) (l : List Rule) (values : Members) : Pass Members :=
  rules ((setting r d).withLocale (localeOf values)) l (.element (bodyOf d)) []

theorem run_withDescriptors : run (r.withDescriptors l) d =
    (pagePass r d).bind (described r d l) := rfl

theorem described_append : described r d (first ++ second) values =
    (described r d first values).bind fun m =>
      (described r d second values).bind fun n => .pure (m.override n) := by
  unfold described
  rw [rules_append]
  -- the second rules begin with the values of the first, which are sorted
  exact (rules_gives_sorted first Members.isSorted_nil).bind_congr fun m hm => rules_eq second hm

theorem payload_of_ok (h : (run r d).result = .ok m) : (r.extract d).payload = .ok m := by
  simp [Resource.extract, h]

theorem payload_of_stop (h : (run r d).result = .error stop) :
    (r.extract d).payload = stop.payload := by
  cases stop <;> simp [Resource.extract, h, Stop.payload]

theorem run_of_page (h : (pagePass r d).result = .ok values) :
    run (r.withDescriptors l) d =
      ⟨(pagePass r d).warnings ++ (described r d l values).warnings,
        (described r d l values).result⟩ := by
  rw [run_withDescriptors, Pass.bind_of_ok h]

/-- An error or a bail among the first descriptors is the end of it. -/
theorem run_append_of_error (h : (run (r.withDescriptors first) d).result = .error stop) :
    run (r.withDescriptors (first ++ second)) d = run (r.withDescriptors first) d := by
  cases hpage : (pagePass r d).result with
  | error e =>
    rw [run_withDescriptors, run_withDescriptors, Pass.bind_of_error hpage,
      Pass.bind_of_error hpage]
  | ok values =>
    rw [run_of_page hpage] at h
    change (described r d first values).result = .error stop at h
    rw [run_of_page hpage, run_of_page hpage, described_append, Pass.bind_of_error h, ← h]

/-- What descriptors that follow others add to a payload. -/
structure Continues (r : Resource) (d : Document) (first second : List Rule) (m : Members) :
    Prop where
  /-- The warnings of the rules for the whole page come first. -/
  warnings : ∃ w w' : List String,
    ((r.withDescriptors first).extract d).warnings = (pagePass r d).warnings ++ w ∧
    ((r.withDescriptors second).extract d).warnings = (pagePass r d).warnings ++ w' ∧
    ((r.withDescriptors (first ++ second)).extract d).warnings =
      (pagePass r d).warnings ++ w ++ w'
  /-- Key by key, the values of those that follow count. -/
  payload : ∀ n, (run (r.withDescriptors second) d).result = .ok n →
    ((r.withDescriptors (first ++ second)).extract d).payload = .ok (m.override n) ∧
    ∀ k, (m.override n).get? k = (n.get? k).or (m.get? k)
  stopped : ∀ stop, (run (r.withDescriptors second) d).result = .error stop →
    (run (r.withDescriptors (first ++ second)) d).result = .error stop ∧
    ((r.withDescriptors (first ++ second)).extract d).payload = stop.payload

/-- What follows descriptors that came to an end adds to their warnings and values. -/
theorem continues (h : (run (r.withDescriptors first) d).result = .ok m) :
    Continues r d first second m := by
  obtain ⟨values, hpage, hfirst⟩ : ∃ values, (pagePass r d).result = .ok values ∧
      (described r d first values).result = .ok m := Pass.exists_of_bind_ok h
  have hboth : run (r.withDescriptors (first ++ second)) d =
      ⟨(pagePass r d).warnings ++ ((described r d first values).warnings ++
        ((described r d second values).bind fun n => .pure (m.override n)).warnings),
        ((described r d second values).bind fun n => .pure (m.override n)).result⟩ := by
    rw [run_of_page hpage, described_append, Pass.bind_of_ok hfirst]
  have hsecond : (run (r.withDescriptors second) d).result =
      (described r d second values).result := by
    rw [run_of_page hpage]
  refine ⟨⟨(described r d first values).warnings, (described r d second values).warnings,
    congrArg Pass.warnings (run_of_page hpage), congrArg Pass.warnings (run_of_page hpage), ?_⟩,
    fun n hn => ⟨payload_of_ok ?_, fun k => ?_⟩, fun stop hstop => ?_⟩
  · refine (congrArg Pass.warnings hboth).trans ?_
    rw [Pass.warnings_bind_pure, List.append_assoc]
  · rw [hboth, Pass.bind_of_ok (hsecond.symm.trans hn)]
    rfl
  · have hsorted : n.IsSorted :=
      rules_gives_sorted second Members.isSorted_nil n (hsecond.symm.trans hn)
    exact Members.get?_override hsorted
  · have herror : (run (r.withDescriptors (first ++ second)) d).result = .error stop := by
      rw [hboth, Pass.bind_of_error (hsecond.symm.trans hstop)]
    exact ⟨herror, payload_of_stop herror⟩

/-- Whether an extraction has no part of a payload: all of it, or nothing after a bail. -/
structure Intact (r : Resource) (d : Document) : Prop where
  whole : ∀ m, (r.extract d).payload = .ok m →
    ((run r d).Bails ∧ m = []) ∨
    ∃ (page : Members) (values : List Members), (pagePass r d).result = .ok page ∧
      (r.descriptors.map fun rule =>
        (Extraction.rule ((setting r d).withLocale (localeOf page)) rule
          (.element (bodyOf d))).result) = values.map .ok ∧
      m = values.foldl Members.override []
  bailed : (run r d).Bails ↔ ∃ selector warning, .miss selector (.bail warning) ∈ steps r d
  emptied : ∀ selector warning, .miss selector (.bail warning) ∈ steps r d →
    (r.extract d).payload = .ok [] ∧
    ∃ before, (r.extract d).warnings = before ++ warning.toList

/-- Only a missing node has an extraction bail out. -/
theorem Step.bails_outcome_iff {st : Step} :
    st.outcome.Bails ↔ ∃ selector warning, st = .miss selector (.bail warning) := by
  cases st with
  | locate css => simpa [outcome, Pass.bails_void] using Pass.not_bails_ofExcept _
  | read source p => simpa [outcome, Pass.bails_void] using not_bails_read source p
  | transform c t v => simpa [outcome, Pass.bails_void] using Transform.not_bails_apply c t v
  | miss selector recovery =>
    rcases recovery with _ | warning | warning | r
    · simpa [outcome] using Pass.not_bails_fail _
    · exact iff_of_true rfl ⟨selector, warning, rfl⟩
    · simp [outcome, Pass.Bails, warned]
    · simpa [outcome] using Pass.not_bails_pure ()

theorem bails_iff : (run r d).Bails ↔
    ∃ selector warning, .miss selector (.bail warning) ∈ steps r d := by
  rw [← Pass.bails_void]
  constructor
  · intro h
    obtain ⟨before, st, hsteps, hst⟩ := (takes_run r d).eq_concat_of_error h
    obtain ⟨selector, warning, rfl⟩ := Step.bails_outcome_iff.1 hst
    exact ⟨selector, warning, by simp [hsteps]⟩
  · rintro ⟨selector, warning, hmem⟩
    exact ((takes_run r d).eq_concat_of_mem hmem (Step.bails_outcome_iff.2 ⟨_, _, rfl⟩)).2

/-- The warning of a bail is the last one. -/
theorem warnings_of_bail {selector : String} {warning : Option String}
    (h : .miss selector (.bail warning) ∈ steps r d) :
    ∃ before, (run r d).warnings = before ++ warning.toList := by
  obtain ⟨⟨before, hsteps⟩, -⟩ :=
    (takes_run r d).eq_concat_of_mem h (Step.bails_outcome_iff.2 ⟨_, _, rfl⟩)
  refine ⟨before.flatMap fun st => st.outcome.warnings, (takes_run r d).warnings.trans ?_⟩
  simp [hsteps, Step.outcome, Pass.bind, warned]

theorem intact (r : Resource) (d : Document) : Intact r d := by
  refine ⟨fun m hm => ?_, bails_iff, fun selector warning hmem =>
    ⟨payload_of_stop (bails_iff.2 ⟨selector, warning, hmem⟩), warnings_of_bail hmem⟩⟩
  cases hrun : (run r d).result with
  | ok values =>
    obtain rfl : values = m := by simpa [payload_of_ok hrun] using hm
    obtain ⟨page, hpage, hrules⟩ := Pass.exists_of_bind_ok hrun
    obtain ⟨all, hall, rfl⟩ := rules_whole hrules
    exact .inr ⟨page, all, hpage, hall, rfl⟩
  | error stop =>
    rw [payload_of_stop hrun] at hm
    cases stop with
    | bailed => exact .inl ⟨hrun, (Except.ok.inj hm).symm⟩
    | failed e => cases hm

/-- Extraction by some descriptors and then by others: an error or a bail in the first ones is the
    end, whatever the others are; otherwise the others add what they give by themselves. In any case
    there is no part of a payload. -/
theorem extraction_composes (r : Resource) (d : Document) (first second : List Rule) :
    (∀ stop, (run (r.withDescriptors first) d).result = .error stop →
      ((r.withDescriptors first).extract d).payload = stop.payload ∧
      (r.withDescriptors (first ++ second)).extract d = (r.withDescriptors first).extract d) ∧
    (∀ m, (run (r.withDescriptors first) d).result = .ok m →
      ((r.withDescriptors first).extract d).payload = .ok m ∧ Continues r d first second m) ∧
    Intact (r.withDescriptors (first ++ second)) d := by
  refine ⟨fun stop hstop => ⟨payload_of_stop hstop, ?_⟩,
    fun m hm => ⟨payload_of_ok hm, continues hm⟩, intact _ d⟩
  rw [Resource.extract, Resource.extract, run_append_of_error hstop]

end
end Extraction
end Harvest
