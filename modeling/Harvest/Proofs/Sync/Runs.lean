import Harvest.Proofs.Sync.Plans
import Harvest.Proofs.Sync.Registry
import Harvest.Proofs.Sync.Steps
/-!
Runs, which are acts one after the other: what they bring, what is there and comes and goes, and
what stays so throughout. What is so of all tasks at all times is so of new tasks, and of those that
wait for something stays so when they are told it and do one thing after the other, up to their next
wait.
-/

namespace Harvest.Sync.Client

/-- What some acts bring, one after the other. -/
def along {α : Type} (c : Client) (f : Client → Act → List α) : List Act → List α
  | [] => []
  | a :: acts => f c a ++ (c.after a).along f acts

theorem Reachable.past {c : Client} (h : Reachable c) {acts past rest : List Act} {a : Act}
    (allows : c.Allows acts) (heq : acts = past ++ a :: rest) :
    Reachable (c.afterAll past) ∧ (c.afterAll past).Permits a ∧
      ((c.afterAll past).after a).Allows rest := by
  subst heq
  obtain ⟨hpast, hrest⟩ := (allows_append c past (a :: rest)).1 allows
  exact ⟨h.afterAll hpast, hrest⟩

/-- What is there and what comes is there afterwards or has gone, if each act keeps to this. -/
theorem perm_along {α : Type} {x : Client → List α} {f g : Client → Act → List α}
    (step : ∀ c a, Reachable c → c.Permits a → (x c ++ f c a).Perm (g c a ++ x (c.after a)))
    {c : Client} (h : Reachable c) {acts : List Act} (allows : c.Allows acts) :
    (x c ++ c.along f acts).Perm (c.along g acts ++ x (c.afterAll acts)) := by
  induction acts generalizing c with
  | nil => exact .of_eq (List.append_nil _)
  | cons a acts ih =>
    have hrest := ih (h.act allows.1) allows.2
    calc
      (x c ++ (f c a ++ (c.after a).along f acts)).Perm
          ((g c a ++ x (c.after a)) ++ (c.after a).along f acts) := by
        rw [← List.append_assoc]
        exact (step c a h allows.1).append_right _
      _ |>.Perm ((g c a ++ (c.after a).along g acts) ++ x ((c.after a).afterAll acts)) := by
        rw [List.append_assoc, List.append_assoc]
        exact hrest.append_left _

/-- What is so at first stays so throughout some acts, exactly if none of them puts an end to it. -/
theorem throughout_iff {I P : Client → Prop} {E : Client → Act → Prop} {acts : List Act}
    (step : ∀ d, I d → P d → ∀ a ∈ acts, d.Permits a →
      I (d.after a) ∧ (P (d.after a) ↔ ¬ E d a))
    {c : Client} (inv : I c) (first : P c) (allows : c.Allows acts) :
    (∀ past, past <+: acts → P (c.afterAll past)) ↔
      ∀ past a, past ++ [a] <+: acts → ¬ E (c.afterAll past) a := by
  -- the first act that puts an end to it is the first one after which it is not so
  induction acts generalizing c with
  | nil =>
    refine iff_of_true (fun past hp => ?_) (fun past a hp => ?_)
    · rw [List.prefix_nil.1 hp]
      exact first
    · simpa using List.prefix_nil.1 hp
  | cons a acts ih =>
    obtain ⟨hinv, hiff⟩ := step c inv first a List.mem_cons_self allows.1
    have ih := fun hfirst => ih (fun d hi hp b hb => step d hi hp b (List.mem_cons_of_mem a hb))
      hinv hfirst allows.2
    constructor
    · intro h past b hp
      have hfirst : P (c.after a) := h [a] (by simp)
      cases past with
      | nil =>
        obtain rfl : b = a := by simpa using hp
        exact hiff.1 hfirst
      | cons x past =>
        obtain ⟨rfl, ht⟩ := List.cons_prefix_cons.1 hp
        exact (ih hfirst).1 (fun q hq => h (x :: q) (List.cons_prefix_cons.2 ⟨rfl, hq⟩)) past b ht
    · intro h past hp
      have hfirst : P (c.after a) := hiff.2 (h [] a (by simp))
      cases past with
      | nil => exact first
      | cons x past =>
        obtain ⟨rfl, ht⟩ := List.cons_prefix_cons.1 hp
        exact (ih hfirst).2 (fun q b hq => h (x :: q) b (List.cons_prefix_cons.2 ⟨rfl, hq⟩)) past ht

/-- Whether none of some acts does something. -/
def Without (c : Client) (R : Client → Act → Prop) : List Act → Prop
  | [] => True
  | a :: acts => ¬ R c a ∧ (c.after a).Without R acts

theorem without_append {R : Client → Act → Prop} (c : Client) (acts more : List Act) :
    c.Without R (acts ++ more) ↔ c.Without R acts ∧ (c.afterAll acts).Without R more := by
  induction acts generalizing c with
  | nil => simp [Without]
  | cons a acts ih => simp [Without, ih, and_assoc]

/-- If some acts do something, there is a first one. -/
theorem exists_first {R : Client → Act → Prop} {c : Client} {acts : List Act}
    (h : ¬ c.Without R acts) :
    ∃ past a post, acts = past ++ a :: post ∧ c.Without R past ∧ R (c.afterAll past) a := by
  induction acts generalizing c with
  | nil => exact absurd trivial h
  | cons a acts ih =>
    by_cases ha : R c a
    · exact ⟨[], a, acts, rfl, trivial, ha⟩
    · obtain ⟨past, b, post, rfl, hpast, hb⟩ := ih fun hrest => h ⟨ha, hrest⟩
      exact ⟨a :: past, b, post, rfl, ⟨ha, hpast⟩, hb⟩

/-- What acts of one kind bring about and acts of another kind undo is so at the end, exactly if it
    was so at first or has been brought about, and was not undone since. -/
theorem latched_iff {I P : Client → Prop} {S R : Client → Act → Prop}
    (step : ∀ d a, I d → d.Permits a →
      I (d.after a) ∧ (P (d.after a) ↔ (P d ∨ S d a) ∧ ¬ R d a))
    {c : Client} (inv : I c) {acts : List Act} (allows : c.Allows acts) :
    P (c.afterAll acts) ↔ (P c ∧ c.Without R acts) ∨
      ∃ pre a post, acts = pre ++ a :: post ∧ S (c.afterAll pre) a ∧
        (c.afterAll pre).Without R (a :: post) := by
  induction acts generalizing c with
  | nil => simp [Without]
  | cons a acts ih =>
    obtain ⟨hinv, hiff⟩ := step c a inv allows.1
    rw [afterAll_cons, ih hinv allows.2, hiff]
    constructor
    · rintro (⟨⟨hp | hs, hr⟩, hrest⟩ | ⟨pre, b, post, rfl, hs, hr⟩)
      · exact .inl ⟨hp, hr, hrest⟩
      · exact .inr ⟨[], a, acts, rfl, hs, hr, hrest⟩
      · exact .inr ⟨a :: pre, b, post, rfl, hs, hr⟩
    · rintro (⟨hp, hr, hrest⟩ | ⟨pre, b, post, heq, hs, hr⟩)
      · exact .inl ⟨⟨.inl hp, hr⟩, hrest⟩
      · cases pre with
        | nil =>
          obtain ⟨rfl, rfl⟩ := List.cons.inj heq
          exact .inl ⟨⟨.inr hs, hr.1⟩, hr.2⟩
        | cons x pre =>
          obtain ⟨rfl, rfl⟩ := List.cons.inj heq
          exact .inr ⟨pre, b, post, rfl, hs, hr⟩

/-! All tasks at all times -/

/-- The task on its course. -/
def coursing (k : TaskId) : Course → Option Task
  | .goesOn next => some ⟨k, .turn, next⟩
  | .waits w next => some ⟨k, w, next⟩
  | .ends => none

/-- What stays so of tasks in whatever they do. -/
structure Lasting (P : Task → Prop) : Prop where
  granted : ∀ {t u : Task}, t.asGranted = u.asGranted → P u → P t
  fresh : ∀ {t : Task}, Fresh t → P t
  begun : ∀ {c : Client} (k : TaskId) {next : List Next}, c.Distinct → c.Begun next →
    P ⟨k, .turn, next⟩
  execute : ∀ (k : TaskId) (job : Job), P ⟨k, .turn, [.execute job]⟩
  heed : ∀ {c : Client} {t : Task} {s : Signal} {a : Client × Course}, c.heed t s = some a →
    P t → ∀ u, coursing t.id a.2 = some u → P u
  done : ∀ {k : TaskId} {n : Next} {rest : List Next}, P ⟨k, .turn, n :: rest⟩ →
    P ⟨k, .turn, rest⟩
  waiting : ∀ {c : Client} {k : TaskId} {n : Next} {rest more : List Next} {w : Wait},
    c.Rests n (.waiting w more) → P ⟨k, .turn, n :: rest⟩ → P ⟨k, w, more ++ rest⟩

section

variable {P : Task → Prop} (l : Lasting P) {c d : Client}
include l

theorem Lasting.of_kept (h : ∀ t ∈ c.tasks, P t) (hd : ∀ t ∈ d.tasks, c.Kept t ∨ Fresh t) :
    ∀ t ∈ d.tasks, P t := by
  intro t ht
  rcases hd t ht with ⟨u, hu, heq⟩ | hf
  · exact l.granted heq (h u hu)
  · exact l.fresh hf

theorem Lasting.run {k : TaskId} {next : List Next} (h : ∀ t ∈ c.tasks, P t)
    (hs : (c.suspend k .turn next).Sound) (hk : P ⟨k, .turn, next⟩) :
    ∀ t ∈ (run k next c).tasks, P t := by
  induction next generalizing c with
  | nil => exact h
  | cons n rest ih =>
    have hp := hs.perform
    have hd := hs.performs
    have hr := rests_perform c k n
    rw [Client.run]
    generalize c.perform k n = a at hp hd hr
    obtain ⟨d, p⟩ := a
    have ha : ∀ t ∈ d.tasks, P t := l.of_kept h fun t => hd.mem_tasks
    cases p with
    | done => exact ih ha hp (l.done hk)
    | waiting w more =>
      intro t ht
      rcases List.mem_append.1 ht with ht | ht
      · exact ha t ht
      · obtain rfl := List.mem_singleton.1 ht
        exact l.waiting hr hk

theorem Lasting.wake (h : ∀ t ∈ c.tasks, P t) (hc : c.Sound) {t : Task} (ht : t ∈ c.tasks)
    (s : Signal) : ∀ u ∈ (c.wake t s).tasks, P u := by
  have hdrop : (c.dropTask t.id).Sound := (hc.resume ht).of_suspend
  rw [Client.wake]
  cases heq : (c.dropTask t.id).heed t s with
  | none => exact h
  | some a =>
    have hrest : ∀ u ∈ (c.dropTask t.id).tasks, P u := fun u hu => h u (List.mem_filter.1 hu).1
    have ha : ∀ u ∈ a.1.tasks, P u :=
      l.of_kept hrest fun u => (told_of_heed hdrop.numbered hdrop.registered heq).mem_tasks
    have hsound := (hc.resume ht).heed heq
    have hu := l.heed heq (h t ht)
    obtain ⟨d, course⟩ := a
    cases course with
    | goesOn next => exact l.run ha hsound (hu _ rfl)
    | waits w next =>
      intro u hm
      rcases List.mem_append.1 hm with hm | hm
      · exact ha u hm
      · obtain rfl := List.mem_singleton.1 hm
        exact hu _ rfl
    | ends => exact ha

theorem Lasting.undertake {next : List Next} (h : ∀ t ∈ c.tasks, P t)
    (hs : ({ c with taskCount := c.taskCount + 1 }.suspend c.taskCount .turn next).Sound)
    (hk : P ⟨c.taskCount, .turn, next⟩) : ∀ t ∈ (c.undertake next).tasks, P t :=
  l.run (c := { c with taskCount := c.taskCount + 1 }) h hs hk

theorem Lasting.after (h : ∀ t ∈ c.tasks, P t) (hc : c.Sound) (hd : c.Distinct) {a : Act}
    (p : c.Permits a) :
    ∀ t ∈ (c.after a).tasks, P t := by
  have hs := step_after hc p
  generalize c.after a = d at hs
  cases hs with
  | wake ht => exact l.wake h hc ht _
  | addServer s =>
    rw [tasks_addServer]
    exact h
  | execute job =>
    intro t ht
    rcases List.mem_append.1 ht with ht | ht
    · exact h t ht
    · obtain rfl := List.mem_singleton.1 ht
      exact l.execute ..
  | still _ _ _ tasks =>
    rw [tasks]
    exact h
  | stops =>
    rw [(unchanged_stopEntries ..).1]
    exact h
  | begins _ _ q hb hs =>
    exact l.undertake (l.of_kept h fun t ht => (q.mem_tasks ht).imp_right Chore.fresh) hs
      (l.begun _ hd hb)

theorem Lasting.reachable (h : Reachable c) : ∀ t ∈ c.tasks, P t := by
  induction h with
  | new h =>
    obtain ⟨rfl, -, -⟩ := new_eq h
    exact fun t ht => nomatch ht
  | act hc p ih => exact l.after ih hc.sound hc.distinct p

end

end Harvest.Sync.Client
