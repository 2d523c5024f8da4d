import Harvest.Proofs.Extraction.Shapes
import Harvest.Proofs.Extraction.Steps
/-!
The records of an array. Each is made at its own element alone, one after the other, so that none is
lost or mixed up with another, and the first that stops is the end of the array. What stands in for
a missing node is looked for in the whole body, so that it is the same for every record.
-/

namespace Harvest

namespace Pass

/-- Whether a pass runs some others one after the other, puts their values together at the end, and
    is stopped by the first of them that stops. -/
structure RunsAll (q : Pass β) (ps : List (Pass α)) (join : List α → β) : Prop where
  ok_iff : ∀ b, q.result = .ok b ↔ ∃ values, ps.map result = values.map .ok ∧ b = join values
  error_iff : ∀ stop, q.result = .error stop ↔ ∃ before p after, ps = before ++ p :: after ∧
    (∀ p' ∈ before, ∃ a, p'.result = .ok a) ∧ p.result = .error stop
  warnings_of_ok : ∀ b, q.result = .ok b → q.warnings = ps.flatMap warnings
  warnings_of_error : ∀ before p after stop, ps = before ++ p :: after →
    (∀ p' ∈ before, ∃ a, p'.result = .ok a) → p.result = .error stop →
    q.warnings = before.flatMap warnings ++ p.warnings

variable {join : List α → β} {p : Pass α} {ps : List (Pass α)}

theorem runsAll_nil : RunsAll (.pure (join [])) ([] : List (Pass α)) join := by
  refine ⟨fun b => ?_, fun stop => ?_, fun _ _ => rfl, fun before p after stop hps => ?_⟩
  · simp [Pass.pure, eq_comm]
  · simp [Pass.pure]
  · simp at hps

/-- A pass that stops is all that is run. -/
theorem runsAll_of_error {f : α → Pass β} {stop : Stop} (h : p.result = .error stop) :
    RunsAll (p.bind f) (p :: ps) join := by
  rw [bind_of_error h]
  -- nothing can stand in front of it, for everything in front gives a value
  have hbefore : ∀ {before p' after stop'}, p :: ps = before ++ p' :: after →
      (∀ b ∈ before, ∃ a, b.result = .ok a) → p'.result = .error stop' →
      before = [] ∧ p' = p := by
    intro before p' after stop' heq hok _
    cases before with
    | nil => exact ⟨rfl, (List.cons.inj heq).1.symm⟩
    | cons b before =>
      obtain ⟨a, ha⟩ := hok b List.mem_cons_self
      obtain rfl : p = b := (List.cons.inj heq).1
      cases ha.symm.trans h
  constructor
  · intro b
    constructor
    · rintro ⟨⟩
    · rintro ⟨values, hvalues, -⟩
      cases values with
      | nil => cases hvalues
      | cons a values => cases h.symm.trans (List.cons.inj hvalues).1
  · intro stop'
    constructor
    · rintro ⟨⟩
      exact ⟨[], p, ps, rfl, by simp, h⟩
    · rintro ⟨before, p', after, heq, hok, hstop⟩
      obtain ⟨-, rfl⟩ := hbefore heq hok hstop
      exact congrArg Except.error (Except.error.inj (h.symm.trans hstop))
  · rintro b ⟨⟩
  · intro before p' after stop' heq hok hstop
    obtain ⟨rfl, rfl⟩ := hbefore heq hok hstop
    rfl

/-- A pass that gives a value is followed by the others. -/
theorem RunsAll.cons {f : α → Pass β} {a : α} (hp : p.result = .ok a)
    (h : RunsAll (f a) ps fun values => join (a :: values)) :
    RunsAll (p.bind f) (p :: ps) join := by
  rw [bind_of_ok hp]
  constructor
  · intro b
    constructor
    · intro hb
      obtain ⟨values, hvalues, rfl⟩ := (h.ok_iff b).1 hb
      exact ⟨a :: values, by simp [hp, hvalues], rfl⟩
    · rintro ⟨values, hvalues, rfl⟩
      cases values with
      | nil => cases hvalues
      | cons a' values =>
        obtain ⟨ha, hrest⟩ := List.cons.inj hvalues
        obtain rfl : a = a' := Except.ok.inj (hp.symm.trans ha)
        exact (h.ok_iff _).2 ⟨values, hrest, rfl⟩
  · intro stop
    constructor
    · intro hstop
      obtain ⟨before, p', after, rfl, hok, hstop⟩ := (h.error_iff stop).1 hstop
      exact ⟨p :: before, p', after, rfl, List.forall_mem_cons.2 ⟨⟨a, hp⟩, hok⟩, hstop⟩
    · rintro ⟨before, p', after, heq, hok, hstop⟩
      cases before with
      | nil =>
        obtain rfl : p = p' := (List.cons.inj heq).1
        cases hp.symm.trans hstop
      | cons b before =>
        exact (h.error_iff stop).2
          ⟨before, p', after, (List.cons.inj heq).2, (List.forall_mem_cons.1 hok).2, hstop⟩
  · intro b hb
    simp [h.warnings_of_ok b hb]
  · intro before p' after stop heq hok hstop
    cases before with
    | nil =>
      obtain rfl : p = p' := (List.cons.inj heq).1
      cases hp.symm.trans hstop
    | cons b before =>
      obtain ⟨rfl, hrest⟩ := List.cons.inj heq
      simp [h.warnings_of_error before p' after stop hrest (List.forall_mem_cons.1 hok).2 hstop]

end Pass

namespace Extraction

open Html Resource

theorem runsAll_each (f : α → Pass β) (l : List α) (join : List β → γ) :
    ((each f l).bind fun bs => .pure (join bs)).RunsAll (l.map f) join := by
  induction l generalizing join with
  | nil => exact Pass.runsAll_nil
  | cons a rest ih =>
    change (((f a).bind fun b => (each f rest).bind fun bs => .pure (b :: bs)).bind _).RunsAll _ _
    rw [Pass.bind_assoc]
    cases ha : (f a).result with
    | error stop => exact Pass.runsAll_of_error ha
    | ok b =>
      refine .cons ha ?_
      rw [Pass.bind_assoc]
      simpa only [Pass.pure_bind] using ih fun bs => join (b :: bs)

section

variable {s : Setting} {scope : Scope} {fields : List Rule}

theorem rules_eq_each (l : List Rule) (base : Members) : rules s l scope base =
    (each (fun r => rule s r scope) l).bind fun values =>
      .pure (values.foldl Members.override base) := by
  induction l generalizing base with
  | nil => rfl
  | cons r rest ih =>
    change (rule s r scope).bind _ = ((rule s r scope).bind _).bind _
    rw [Pass.bind_assoc]
    congr 1
    funext values
    rw [ih, Pass.bind_assoc]
    simp only [Pass.pure_bind, List.foldl_cons]

theorem runsAll_record (p : Place) :
    (record s fields p).RunsAll (fields.map fun f => rule s f (.element p))
      fun values => .obj (values.foldl Members.override []) := by
  unfold record
  rw [rules_eq_each, Pass.bind_assoc]
  simpa only [Pass.pure_bind] using runsAll_each (fun f => rule s f (.element p)) fields
    fun values => Json.obj (values.foldl Members.override [])

theorem runsAll_array {key selector : String} {css : Css.Selector}
    (h : Css.selector selector = .ok css) :
    (rule s (.array key selector fields) scope).RunsAll ((scope.all s css).map (record s fields))
      fun items => [(key, .arr items)] := by
  change ((Pass.ofExcept (Css.selector selector)).bind _).RunsAll _ _
  rw [h]
  change ((Pass.pure css).bind _).RunsAll _ _
  rw [Pass.pure_bind]
  exact runsAll_each (record s fields) (scope.all s css) fun items => [(key, Json.arr items)]

/-! Missing nodes -/

/-- Whether a selector selects nothing. -/
def Misses (s : Setting) (selector : String) (scope : Scope) : Prop :=
  ∃ css, Css.selector selector = .ok css ∧ scope.all s css = []

/-- Whether a rule comes to nothing since its node is missing. -/
inductive Omits (s : Setting) : Rule → Scope → Prop
  | leftOut {selector : String} {extractors : List Extractor} {warning : Option String}
      {scope : Scope} : Misses s selector scope →
      Omits s (.node (some selector) extractors (.omit warning)) scope
  | substitute {selector : String} {extractors : List Extractor} {r : Rule} {scope : Scope} :
      Misses s selector scope → Omits s r (.element s.body) →
      Omits s (.node (some selector) extractors (.fallback r)) scope

theorem rule_of_misses {selector : String} (h : Misses s selector scope)
    (extractors : List Extractor) (recovery : Recovery) :
    rule s (.node (some selector) extractors recovery) scope = recover s selector recovery := by
  obtain ⟨css, hcss, hnone⟩ := h
  have htarget : target s scope (some selector) = .pure none := by
    simp [target, hcss, hnone, Except.map, Pass.ofExcept]
  change (target s scope (some selector)).bind _ = _
  rw [htarget, Pass.pure_bind]
  rfl

theorem Omits.result {r : Rule} (h : Omits s r scope) : (rule s r scope).result = .ok [] := by
  induction h with
  | leftOut h =>
    rw [rule_of_misses h]
    rfl
  | substitute h _ ih =>
    rw [rule_of_misses h]
    exact ih

/-- A record of which nothing is left is still a record. -/
theorem record_of_omits {p : Place} (h : ∀ f ∈ fields, Omits s f (.element p)) :
    (record s fields p).result = .ok (.obj []) := by
  refine (runsAll_record p).ok_iff _ |>.2 ⟨fields.map fun _ => [], ?_, ?_⟩
  · simp only [List.map_map]
    exact List.map_congr_left fun f hf => (h f hf).result
  · have hnone : ∀ l : List Rule,
        (l.map fun _ => ([] : Members)).foldl Members.override [] = [] := by
      intro l
      induction l with
      | nil => rfl
      | cons f rest ih => exact ih
    rw [hnone]

mutual

/-- The values of a rule where those of every substitute are given beforehand. -/
def ruleGiven (s : Setting) (given : Rule → Pass Members) : Rule → Scope → Pass Members
  | .node selector extractors recovery, scope =>
    (target s scope selector).bind fun
      | some p => extractAll s.context p extractors []
      | none =>
        match recovery with
        | .fallback r => given r
        | other => recover s (selector.getD "") other
  | .array key selector fields, scope =>
    (Pass.ofExcept (Css.selector selector)).bind fun css =>
      (each (fun p => (rulesGiven s given fields (.element p) []).bind fun m => .pure (.obj m))
        (scope.all s css)).bind fun records => .pure [(key, .arr records)]

def rulesGiven (s : Setting) (given : Rule → Pass Members) :
    List Rule → Scope → Members → Pass Members
  | [], _, m => .pure m
  | r :: rest, scope, m =>
    (ruleGiven s given r scope).bind fun values =>
      rulesGiven s given rest scope (m.override values)

end

/-- The values of a substitute, which is looked for in the whole body. -/
def substitute (s : Setting) (r : Rule) : Pass Members := rule s r (.element s.body)

mutual

/-- At any depth, what stands in for a missing node is known before any record is made. -/
theorem ruleGiven_substitute (s : Setting) : (r : Rule) → (scope : Scope) →
    ruleGiven s (substitute s) r scope = rule s r scope
  | .node selector extractors recovery, scope => by
    change (target s scope selector).bind _ = (target s scope selector).bind _
    congr 1
    funext place
    cases place with
    | some p => rfl
    | none => cases recovery <;> rfl
  | .array key selector fields, scope => by
    have hrecord : (fun p => (rulesGiven s (substitute s) fields (.element p) []).bind
        fun m => .pure (.obj m)) = record s fields := by
      funext p
      rw [rulesGiven_substitute s fields (.element p) []]
      rfl
    simp only [ruleGiven, hrecord]
    rfl

theorem rulesGiven_substitute (s : Setting) : (l : List Rule) → (scope : Scope) →
    (m : Members) → rulesGiven s (substitute s) l scope m = rules s l scope m
  | [], _, _ => rfl
  | r :: rest, scope, m => by
    simp only [rulesGiven, ruleGiven_substitute s r scope]
    change _ = (rule s r scope).bind _
    congr 1
    funext values
    exact rulesGiven_substitute s rest scope (m.override values)

end

/-- What an array comes to whose selector selects some places. -/
structure Tabulates (s : Setting) (key selector : String) (fields : List Rule) (scope : Scope)
    (places : List Place) : Prop where
  /-- There is one record for each place, in their order. -/
  count : ∀ m, (rule s (.array key selector fields) scope).result = .ok m →
    ∃ items, m = [(key, .arr items)] ∧ items.length = places.length
  records : (rule s (.array key selector fields) scope).RunsAll (places.map (record s fields))
    fun items => [(key, .arr items)]
  /-- The values of a record are those of its fields at its place alone, one put over the other. -/
  values : ∀ p ∈ places, (record s fields p).RunsAll (fields.map fun f => rule s f (.element p))
    fun values => .obj (values.foldl Members.override [])
  empty : ∀ p ∈ places, (∀ f ∈ fields, Omits s f (.element p)) →
    (record s fields p).result = .ok (.obj [])
  /-- Substitutes at any depth are the same for all records: their values are given by the body. -/
  given : ruleGiven s (substitute s) (.array key selector fields) scope =
    rule s (.array key selector fields) scope
  substituted : ∀ (css : String) (extractors : List Extractor) (r : Rule) (scope' : Scope),
    Misses s css scope' →
    rule s (.node (some css) extractors (.fallback r)) scope' = substitute s r

/-- Arrays hold what their fields give at each selected element, record by record. -/
theorem arrays_tabulated {selector : String} {css : Css.Selector} (key : String)
    (fields : List Rule) (scope : Scope) (h : Css.selector selector = .ok css) :
    Tabulates s key selector fields scope (scope.all s css) := by
  have hrecords : (rule s (.array key selector fields) scope).RunsAll
      ((scope.all s css).map (record s fields)) fun items => [(key, .arr items)] :=
    runsAll_array h
  refine ⟨fun m hm => ?_, hrecords, fun p _ => runsAll_record p, fun p _ => record_of_omits,
    ruleGiven_substitute s _ scope, fun css extractors r scope' hmisses => ?_⟩
  · obtain ⟨items, hitems, rfl⟩ := (hrecords.ok_iff m).1 hm
    have hlength := congrArg List.length hitems
    simp only [List.length_map] at hlength
    exact ⟨items, rfl, hlength.symm⟩
  · rw [rule_of_misses hmisses]
    rfl

end

/-! Items of which one has a price; the first price of the page is noted with each -/

def offerFields : List Rule :=
  [.node (some "b") [⟨.text, "price", [.toNumber none]⟩] (.omit none),
   .node (some "i") [⟨.text, "from", []⟩]
     (.fallback (.node (some "b") [⟨.text, "from", []⟩] .none))]

def offerSetting : Setting := ⟨page, rootOf page, ⟨"shop.test", .english⟩⟩

/-- The two records of the page as text. -/
def offersText : String :=
  "\x7b\"items\":[\x7b\"from\":\"1.5\",\"price\":1.5\x7d,\x7b\"from\":\"1.5\"\x7d]\x7d"

theorem offers_tabulated : ∃ css, Css.selector "li" = .ok css ∧
    ((Scope.element (rootOf page)).all offerSetting css).length = 2 ∧
    Tabulates offerSetting "items" "li" offerFields (.element (rootOf page))
      ((Scope.element (rootOf page)).all offerSetting css) ∧
    ((rule offerSetting (.array "items" "li" offerFields)
      (.element (rootOf page))).result.toOption.map fun m => (Json.obj m).compact) =
        some offersText := by
  obtain ⟨css, hcss⟩ : ∃ css, Css.selector "li" = .ok css := ⟨_, rfl⟩
  refine ⟨css, hcss, ?_, arrays_tabulated "items" offerFields _ hcss, by decide +kernel⟩
  obtain rfl := Except.ok.inj (hcss.symm.trans rfl)
  decide +kernel

end Extraction
end Harvest
