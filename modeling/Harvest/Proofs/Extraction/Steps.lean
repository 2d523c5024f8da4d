import Harvest.Extraction
import Harvest.Proofs.Extraction.Leaves
/-!
The steps of an extraction: selectors that are made out, nodes that are missed, values that are read
and transformed. Each step is taken after the success of the one before, at any depth of the rules,
so that only the last one can stop the extraction, and the warnings are those of the steps.
-/

namespace Harvest.Extraction

open Html Resource

inductive Step
  | locate (selector : String)
  /-- A node is missing, and its rule says what is to be done. -/
  | miss (selector : String) (recovery : Recovery)
  | read (source : Source) (p : Place)
  | transform (c : Transform.Context) (t : Transformer) (v : Json)

/-- What a step comes to by itself. A substitute for a node has steps of its own. -/
def Step.outcome : Step → Pass Unit
  | .locate selector => (Pass.ofExcept (Css.selector selector)).void
  | .miss selector .none => .fail (.missingNode selector)
  | .miss _ (.bail warning) => (warned warning).bind fun _ => ⟨[], .error .bailed⟩
  | .miss _ (.omit warning) => warned warning
  | .miss _ (.fallback _) => .pure ()
  | .read source p => (Extraction.read source p).void
  | .transform c t v => (Transform.apply c t v).void

def chainSteps (c : Transform.Context) : List Transformer → Json → List Step
  | [], _ => []
  | t :: rest, v => .transform c t v :: (Transform.apply c t v).follow (chainSteps c rest)

def extractSteps (c : Transform.Context) (e : Extractor) (p : Place) : List Step :=
  .read e.source p :: (read e.source p).follow (chainSteps c e.transformers)

def extractAllSteps (c : Transform.Context) (p : Place) : List Extractor → List Step
  | [] => []
  | e :: rest => extractSteps c e p ++ (extract c e p).follow fun _ => extractAllSteps c p rest

def eachSteps (f : α → Pass β) (steps : α → List Step) : List α → List Step
  | [] => []
  | a :: rest => steps a ++ (f a).follow fun _ => eachSteps f steps rest

/-- The record of one element. -/
def record (s : Setting) (fields : List Rule) (p : Place) : Pass Json :=
  (rules s fields (.element p) []).bind fun m => .pure (.obj m)

mutual

def ruleSteps (s : Setting) : Rule → Scope → List Step
  | .node selector extractors recovery, scope =>
    selector.toList.map .locate ++ (target s scope selector).follow fun
      | some p => extractAllSteps s.context p extractors
      | none => .miss (selector.getD "") recovery :: substituteSteps s recovery
  | .array _ selector fields, scope =>
    .locate selector :: (Pass.ofExcept (Css.selector selector)).follow fun css =>
      eachSteps (record s fields) (fun p => rulesSteps s fields (.element p)) (scope.all s css)

def rulesSteps (s : Setting) : List Rule → Scope → List Step
  | [], _ => []
  | r :: rest, scope =>
    ruleSteps s r scope ++ (rule s r scope).follow fun _ => rulesSteps s rest scope

def substituteSteps (s : Setting) : Recovery → List Step
  | .fallback r => ruleSteps s r (.element s.body)
  | .none | .bail _ | .omit _ => []

end

def pageSteps (s : Setting) : List PageRule → List Step
  | [] => []
  | r :: rest =>
    let r := Rule.node r.selector r.extractors r.recovery
    ruleSteps s r .document ++ (rule s r .document).follow fun _ => pageSteps s rest

/-- All steps of the extraction from a document. -/
def steps (r : Resource) (d : Document) : List Step :=
  let s := setting r d
  pageSteps s r.pageRules ++ (pageRules s r.pageRules []).follow fun values =>
    rulesSteps (s.withLocale (localeOf values)) r.descriptors (.element s.body)

/-- Whether some steps are taken one after the other, and what they come to together. -/
inductive Course : List Step → Pass Unit → Prop
  | done : Course [] (.pure ())
  | stop {st : Step} {e : Stop} : st.outcome.result = .error e → Course [st] st.outcome
  | step {st : Step} {l : List Step} {p : Pass Unit} : st.outcome.result = .ok () → Course l p →
      Course (st :: l) (st.outcome.bind fun _ => p)

namespace Course

variable {l l' : List Step} {p q : Pass Unit} {st : Step} {e : Stop}

theorem single (st : Step) : Course [st] st.outcome := by
  cases h : st.outcome.result with
  | error e => exact .stop h
  | ok => exact Pass.bind_pure st.outcome ▸ .step h .done

theorem append (h : Course l p) (hp : p.result = .ok ()) (hq : Course l' q) :
    Course (l ++ l') (p.bind fun _ => q) := by
  induction h with
  | done => rwa [Pass.pure_bind]
  | stop hstop => cases hstop.symm.trans hp
  | @step st l p hst _ ih =>
    have hrest : p.result = .ok () := by simpa [Pass.bind, hst] using hp
    rw [Pass.bind_assoc]
    exact .step hst (ih hrest)

theorem warnings (h : Course l p) : p.warnings = l.flatMap fun st => st.outcome.warnings := by
  induction h with
  | done => rfl
  | stop => simp
  | step hst _ ih => simp [Pass.bind, hst, ih]

/-- What stops the steps is the last of them. -/
theorem eq_concat_of_error (h : Course l p) (hp : p.result = .error e) :
    ∃ before st, l = before ++ [st] ∧ st.outcome.result = .error e := by
  induction h with
  | done => cases hp
  | @stop st => exact ⟨[], st, rfl, hp⟩
  | @step st l p hst _ ih =>
    obtain ⟨before, last, rfl, hlast⟩ := ih (by simpa [Pass.bind, hst] using hp)
    exact ⟨st :: before, last, rfl, hlast⟩

/-- A step that stops is the last one, and nothing else stops the steps. -/
theorem eq_concat_of_mem (h : Course l p) (hmem : st ∈ l) (hst : st.outcome.result = .error e) :
    (∃ before, l = before ++ [st]) ∧ p.result = .error e := by
  induction h with
  | done => cases hmem
  | stop =>
    obtain rfl := List.mem_singleton.1 hmem
    exact ⟨⟨[], rfl⟩, hst⟩
  | @step first l p hfirst _ ih =>
    rcases List.mem_cons.1 hmem with rfl | hmem
    · cases hfirst.symm.trans hst
    · obtain ⟨⟨before, rfl⟩, hp⟩ := ih hmem
      exact ⟨⟨first :: before, rfl⟩, by simpa [Pass.bind, hfirst] using hp⟩

end Course

/-- Whether a pass takes some steps. -/
def Takes (p : Pass α) (l : List Step) : Prop := Course l p.void

theorem takes_pure (a : α) : Takes (.pure a) [] := .done

theorem takes_single {p : Pass α} (st : Step) (h : st.outcome = p.void) : Takes p [st] := by
  rw [Takes, ← h]
  exact .single st

theorem Takes.bind {p : Pass α} {f : α → Pass β} {l : List Step} {steps : α → List Step}
    (h : Takes p l) (next : ∀ a, Takes (f a) (steps a)) :
    Takes (p.bind f) (l ++ p.follow steps) := by
  unfold Pass.follow
  cases hp : p.result with
  | error e =>
    rw [List.append_nil, Takes, Pass.void_bind_of_error hp]
    exact h
  | ok a =>
    rw [Takes, Pass.void_bind_of_ok hp]
    exact h.append (by simp [Pass.void, hp, Except.map]) (next a)

/-- A pass whose value is only turned into another one takes the same steps. -/
theorem Takes.bind_pure {p : Pass α} {l : List Step} (h : Takes p l) (f : α → β) :
    Takes (p.bind fun a => .pure (f a)) l := by
  simpa only [Pass.follow_nil, List.append_nil] using h.bind fun a => takes_pure (f a)

theorem takes_applyAll (c : Transform.Context) (ts : List Transformer) (v : Json) :
    Takes (Transform.applyAll c ts v) (chainSteps c ts v) := by
  induction ts generalizing v with
  | nil => exact takes_pure v
  | cons t ts ih => exact (takes_single (.transform c t v) rfl).bind ih

theorem takes_extract (c : Transform.Context) (e : Extractor) (p : Place) :
    Takes (extract c e p) (extractSteps c e p) :=
  (takes_single (.read e.source p) rfl).bind (takes_applyAll c e.transformers)

theorem takes_extractAll (c : Transform.Context) (p : Place) (extractors : List Extractor)
    (m : Members) : Takes (extractAll c p extractors m) (extractAllSteps c p extractors) := by
  induction extractors generalizing m with
  | nil => exact takes_pure m
  | cons e rest ih => exact (takes_extract c e p).bind fun v => ih _

theorem takes_each {f : α → Pass β} {steps : α → List Step} (h : ∀ a, Takes (f a) (steps a))
    (l : List α) : Takes (each f l) (eachSteps f steps l) := by
  induction l with
  | nil => exact takes_pure []
  | cons a rest ih => exact (h a).bind fun b => ih.bind_pure (b :: ·)

theorem takes_target (s : Setting) (scope : Scope) (selector : Option String) :
    Takes (target s scope selector) (selector.toList.map .locate) := by
  cases selector with
  | none => exact takes_pure _
  | some css =>
    refine takes_single _ ?_
    change (Pass.ofExcept (Css.selector css)).void =
      (Pass.ofExcept ((Css.selector css).map fun sel => (scope.all s sel).head?)).void
    cases Css.selector css <;> rfl

mutual

theorem takes_rule (s : Setting) : (r : Rule) → (scope : Scope) →
    Takes (rule s r scope) (ruleSteps s r scope)
  | .node selector extractors recovery, scope =>
    (takes_target s scope selector).bind fun
      | some p => takes_extractAll s.context p extractors []
      | none => takes_recover s (selector.getD "") recovery
  | .array _ selector fields, _ =>
    (takes_single (.locate selector) rfl).bind fun _ =>
      (takes_each (fun p =>
        (takes_rules s fields (.element p) []).bind_pure Json.obj) _).bind_pure _

theorem takes_rules (s : Setting) : (l : List Rule) → (scope : Scope) → (m : Members) →
    Takes (rules s l scope m) (rulesSteps s l scope)
  | [], _, m => takes_pure m
  | r :: rest, scope, _ => (takes_rule s r scope).bind fun _ => takes_rules s rest scope _

theorem takes_recover (s : Setting) (selector : String) : (recovery : Recovery) →
    Takes (recover s selector recovery) (.miss selector recovery :: substituteSteps s recovery)
  | .none => takes_single _ rfl
  | .bail _ => takes_single _ rfl
  | .omit _ => (takes_single _ rfl).bind_pure _
  | .fallback r =>
    -- the missing node stops nothing here; the steps of its substitute follow
    (takes_single (p := .pure ()) _ rfl).bind fun _ => takes_rule s r (.element s.body)

end

theorem takes_pageRules (s : Setting) (l : List PageRule) (m : Members) :
    Takes (pageRules s l m) (pageSteps s l) := by
  induction l generalizing m with
  | nil => exact takes_pure m
  | cons r rest ih => exact (takes_rule s _ .document).bind fun _ => ih _

/-- The steps of an extraction are taken one after the other, and it comes to what they come to. -/
theorem takes_run (r : Resource) (d : Document) : Takes (run r d) (steps r d) :=
  (takes_pageRules _ r.pageRules []).bind fun _ => takes_rules _ r.descriptors _ []

end Harvest.Extraction
