import Harvest.Proofs.Extraction.Steps
/-!
Transformers that are not recognized. Without them an extraction takes the same steps but for
theirs, and comes to the same; of its warnings only theirs are missing, one for each time that such
a transformer was reached.
-/

namespace Harvest

namespace Resource

def Extractor.recognized (e : Extractor) : Extractor :=
  { e with transformers := e.transformers.filter (· ≠ .unrecognized) }

mutual

/-- A rule without transformers that are not recognized, at any depth. -/
def Rule.recognized : Rule → Rule
  | .node selector extractors recovery =>
    .node selector (extractors.map Extractor.recognized) recovery.recognized
  | .array key selector fields => .array key selector (recognizedRules fields)

def recognizedRules : List Rule → List Rule
  | [] => []
  | r :: rest => r.recognized :: recognizedRules rest

def Recovery.recognized : Recovery → Recovery
  | .fallback r => .fallback r.recognized
  | .none => .none
  | .bail warning => .bail warning
  | .omit warning => .omit warning

end

def PageRule.recognized (r : PageRule) : PageRule :=
  ⟨r.selector, r.extractors.map Extractor.recognized, r.recovery.recognized⟩

end Resource

def Resource.recognized (r : Resource) : Resource :=
  { r with
    pageRules := r.pageRules.map Resource.PageRule.recognized
    descriptors := Resource.recognizedRules r.descriptors }

namespace Extraction

open Html Resource

def Step.isUnrecognized : Step → Bool
  | .transform _ .unrecognized _ => true
  | _ => false

/-- The warnings of some steps but for transformers that are not recognized. -/
def knownWarnings (l : List Step) : List String :=
  (l.filter fun st => !st.isUnrecognized).flatMap fun st => st.outcome.warnings

/-- Whether a pass with some steps and another one come to the same, of which the other one has only
    the warnings of what is recognized. -/
structure Mutes (l : List Step) (p q : Pass α) : Prop where
  result : q.result = p.result
  warnings : q.warnings = knownWarnings l

section

variable {l : List Step} {p q : Pass α} {c : Transform.Context}

theorem knownWarnings_append (l l' : List Step) :
    knownWarnings (l ++ l') = knownWarnings l ++ knownWarnings l' := by
  simp [knownWarnings]

theorem mutes_pure (a : α) : Mutes [] (.pure a) (.pure a) := ⟨rfl, rfl⟩

/-- A pass all of whose steps are recognized goes on as it was. -/
theorem Takes.mutes (h : Takes p l) (hl : ∀ st ∈ l, st.isUnrecognized = false) : Mutes l p p := by
  refine ⟨rfl, (Course.warnings h).trans ?_⟩
  rw [knownWarnings, List.filter_eq_self.2 fun st hst => by simp [hl st hst]]

theorem mutes_single (st : Step) (h : st.outcome = p.void) (hst : st.isUnrecognized = false) :
    Mutes [st] p p :=
  (takes_single st h).mutes (by simpa using hst)

theorem Mutes.bind {f f' : α → Pass β} {steps : α → List Step} (h : Mutes l p q)
    (next : ∀ a, Mutes (steps a) (f a) (f' a)) :
    Mutes (l ++ p.follow steps) (p.bind f) (q.bind f') := by
  unfold Pass.follow
  cases hp : p.result with
  | error e =>
    have hq := h.result.trans hp
    rw [Pass.bind_of_error hp, Pass.bind_of_error hq, List.append_nil]
    exact ⟨rfl, h.warnings⟩
  | ok a =>
    have hq := h.result.trans hp
    rw [Pass.bind_of_ok hp, Pass.bind_of_ok hq]
    refine ⟨(next a).result, ?_⟩
    rw [knownWarnings_append, ← h.warnings, ← (next a).warnings]

theorem Mutes.bind_pure (h : Mutes l p q) (f : α → β) :
    Mutes l (p.bind fun a => .pure (f a)) (q.bind fun a => .pure (f a)) := by
  simpa only [Pass.follow_nil, List.append_nil] using h.bind fun a => mutes_pure (f a)

theorem isUnrecognized_transform {t : Transformer} (h : t ≠ .unrecognized) (v : Json) :
    (Step.transform c t v).isUnrecognized = false := by
  cases t with
  | unrecognized => exact absurd rfl h
  | _ => rfl

/-- The chain is the same but for what changes nothing. -/
theorem mutes_applyAll (ts : List Transformer) (v : Json) : Mutes (chainSteps c ts v)
    (Transform.applyAll c ts v) (Transform.applyAll c (ts.filter (· ≠ .unrecognized)) v) := by
  induction ts generalizing v with
  | nil => exact mutes_pure v
  | cons t ts ih =>
    by_cases ht : t = .unrecognized
    -- the value goes on as it is, after a warning that the other chain lacks
    · subst ht
      exact ⟨(ih v).result, (ih v).warnings⟩
    · rw [List.filter_cons_of_pos (by simpa using ht)]
      exact (mutes_single (.transform c t v) rfl (isUnrecognized_transform ht v)).bind ih

theorem mutes_extract (e : Extractor) (p : Place) :
    Mutes (extractSteps c e p) (extract c e p) (extract c e.recognized p) :=
  (mutes_single (.read e.source p) rfl rfl).bind (mutes_applyAll e.transformers)

theorem mutes_extractAll (p : Place) (extractors : List Extractor) (m : Members) :
    Mutes (extractAllSteps c p extractors) (extractAll c p extractors m)
      (extractAll c p (extractors.map Extractor.recognized) m) := by
  induction extractors generalizing m with
  | nil => exact mutes_pure m
  | cons e rest ih => exact (mutes_extract e p).bind fun v => ih _

theorem mutes_each {f f' : α → Pass β} {steps : α → List Step}
    (h : ∀ a, Mutes (steps a) (f a) (f' a)) (l : List α) :
    Mutes (eachSteps f steps l) (each f l) (each f' l) := by
  induction l with
  | nil => exact mutes_pure []
  | cons a rest ih => exact (h a).bind fun b => ih.bind_pure (b :: ·)

theorem mutes_target (s : Setting) (scope : Scope) (selector : Option String) :
    Mutes (selector.toList.map .locate) (target s scope selector) (target s scope selector) :=
  (takes_target s scope selector).mutes fun st hst => by
    obtain ⟨css, -, rfl⟩ := List.mem_map.1 hst
    rfl

theorem mutes_miss {s : Setting} {selector : String} {recovery : Recovery}
    (h : substituteSteps s recovery = []) :
    Mutes (.miss selector recovery :: substituteSteps s recovery)
      (recover s selector recovery) (recover s selector recovery) :=
  (takes_recover s selector recovery).mutes (by simp [h, Step.isUnrecognized])

end

mutual

theorem mutes_rule (s : Setting) : (r : Rule) → (scope : Scope) →
    Mutes (ruleSteps s r scope) (rule s r scope) (rule s r.recognized scope)
  | .node selector extractors recovery, scope =>
    (mutes_target s scope selector).bind fun
      | some p => mutes_extractAll p extractors []
      | none => mutes_recover s (selector.getD "") recovery
  | .array _ selector fields, _ =>
    (mutes_single (.locate selector) rfl rfl).bind fun _ =>
      (mutes_each (fun p =>
        (mutes_rules s fields (.element p) []).bind_pure Json.obj) _).bind_pure _

theorem mutes_rules (s : Setting) : (l : List Rule) → (scope : Scope) → (m : Members) →
    Mutes (rulesSteps s l scope) (rules s l scope m) (rules s (recognizedRules l) scope m)
  | [], _, m => mutes_pure m
  | r :: rest, scope, _ => (mutes_rule s r scope).bind fun _ => mutes_rules s rest scope _

theorem mutes_recover (s : Setting) (selector : String) : (recovery : Recovery) →
    Mutes (.miss selector recovery :: substituteSteps s recovery) (recover s selector recovery)
      (recover s selector recovery.recognized)
  | .none | .bail _ | .omit _ => mutes_miss rfl
  | .fallback r =>
    have h := mutes_rule s r (.element s.body)
    ⟨h.result, h.warnings⟩

end

theorem mutes_pageRules (s : Setting) (l : List PageRule) (m : Members) :
    Mutes (pageSteps s l) (pageRules s l m) (pageRules s (l.map PageRule.recognized) m) := by
  induction l generalizing m with
  | nil => exact mutes_pure m
  | cons r rest ih => exact (mutes_rule s _ .document).bind fun _ => ih _

theorem mutes_run (r : Resource) (d : Document) :
    Mutes (steps r d) (run r d) (run r.recognized d) :=
  (mutes_pageRules _ r.pageRules []).bind fun _ => mutes_rules _ r.descriptors _ []

theorem warnings_of_isUnrecognized {st : Step} (h : st.isUnrecognized) :
    st.outcome.warnings = [Transform.unrecognizedWarning] := by
  unfold Step.isUnrecognized at h
  split at h
  · rfl
  · cases h

/-- The warnings of some steps are those of what is recognized, with others among them. -/
theorem warnings_split (l : List Step) :
    (knownWarnings l).Sublist (l.flatMap fun st => st.outcome.warnings) ∧
    (l.flatMap fun st => st.outcome.warnings).Perm (knownWarnings l ++
      List.replicate (l.countP Step.isUnrecognized) Transform.unrecognizedWarning) := by
  induction l with
  | nil => exact ⟨.refl _, .refl _⟩
  | cons st rest ih =>
    obtain ⟨hsub, hperm⟩ := ih
    cases hst : st.isUnrecognized with
    | true =>
      have hknown : knownWarnings (st :: rest) = knownWarnings rest := by
        simp [knownWarnings, hst]
      rw [hknown, List.flatMap_cons, warnings_of_isUnrecognized hst, List.countP_cons_of_pos hst]
      exact ⟨hsub.cons _, (hperm.cons _).trans List.perm_middle.symm⟩
    | false =>
      have hknown : knownWarnings (st :: rest) = st.outcome.warnings ++ knownWarnings rest := by
        simp [knownWarnings, hst]
      rw [hknown, List.flatMap_cons, List.countP_cons_of_neg (by simp [hst]), List.append_assoc]
      exact ⟨hsub.append_left _, hperm.append_left _⟩

/-- Without the transformers that are not recognized there is the same payload or the same error,
    and of the warnings only theirs are missing, one for each time that one was reached. -/
theorem unrecognized_inert (r : Resource) (d : Document) :
    (r.recognized.extract d).payload = (r.extract d).payload ∧
    (r.recognized.extract d).warnings.Sublist (r.extract d).warnings ∧
    (r.extract d).warnings.Perm ((r.recognized.extract d).warnings ++
      List.replicate ((steps r d).countP Step.isUnrecognized) Transform.unrecognizedWarning) := by
  have h := mutes_run r d
  have hall : (r.extract d).warnings = (steps r d).flatMap fun st => st.outcome.warnings :=
    (takes_run r d).warnings
  have hknown : (r.recognized.extract d).warnings = knownWarnings (steps r d) := h.warnings
  rw [hall, hknown]
  exact ⟨by simp only [Resource.extract, h.result], warnings_split (steps r d)⟩

end Extraction
end Harvest
