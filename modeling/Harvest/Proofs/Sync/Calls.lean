import Harvest.Proofs.Sync.Runs
import Harvest.Proofs.Sync.Turns
/-!
The calls that submit a result. The host makes them, and so does a task that executes a job, at its
end: it has nothing else to do.
-/

namespace Harvest.Sync

/-- Whether a task that executes a job does nothing else. -/
def Task.Alone (t : Task) : Prop :=
  (∀ job r, t.wait = .page job r → t.next = []) ∧
    ∀ job, .execute job ∈ t.next → t.wait = .turn ∧ t.next = [.execute job]

theorem Task.alone_of_asGranted {t u : Task} (h : t.asGranted = u.asGranted) (hu : u.Alone) :
    t.Alone := by
  have hw : t.wait.asGranted = u.wait.asGranted := congrArg Task.wait h
  have hn : t.next = u.next := by
    rw [← Task.asGranted_next, h, Task.asGranted_next]
  constructor
  · intro job r hp
    rw [hn]
    rcases Wait.eq_of_asGranted hw.symm with hut | ⟨_, _, hg⟩
    · exact hu.1 job r (hut.trans hp)
    · rw [hp] at hg
      cases hg
  · intro job hm
    obtain ⟨hv, hnext⟩ := hu.2 job (hn ▸ hm)
    refine ⟨?_, hn.trans hnext⟩
    rcases Wait.eq_of_asGranted hw with htu | ⟨_, _, hg⟩
    · exact htu.trans hv
    · rw [hv] at hg
      cases hg

theorem Task.alone_of_none {t : Task} (hw : ∀ job r, t.wait ≠ .page job r)
    (hn : ∀ job, .execute job ∉ t.next) : t.Alone :=
  ⟨fun job r h => absurd h (hw job r), fun job h => absurd h (hn job)⟩

theorem Task.alone_of_turn {k : TaskId} {next : List Next} (hn : ∀ job, .execute job ∉ next) :
    Task.Alone ⟨k, .turn, next⟩ :=
  ⟨by simp, fun job h => absurd h (hn job)⟩

namespace Client

theorem Fresh.alone {t : Task} (h : Fresh t) : t.Alone := by
  cases h <;> exact Task.alone_of_turn (by simp)

theorem Arises.ne_execute {c : Client} {t : Task} {s : Signal} {n : Next} (h : c.Arises t s n)
    (job : Job) : n ≠ .execute job := by
  cases h <;> nofun

theorem Onward.ne_page {v w : Wait} (h : Onward v w) (job : Job) (r : Http.Request) :
    w ≠ .page job r := by
  cases h <;> nofun

theorem alone_of_heed {c : Client} {t : Task} {s : Signal} {a : Client × Course}
    (heq : c.heed t s = some a) (ht : t.Alone) {u : Task} (hu : coursing t.id a.2 = some u) :
    u.Alone := by
  by_cases hx : ∃ job, .execute job ∈ t.next
  · obtain ⟨job, hx⟩ := hx
    obtain ⟨k, w, next⟩ := t
    obtain ⟨hw, -⟩ := ht.2 job hx
    obtain rfl : w = .turn := hw
    cases heeds_of_heed heq with
    | turn =>
      cases hu
      exact ht
  · have hplan : ∀ job, .execute job ∉ a.2.plan := by
      intro job hm
      rcases planned_of_heed heq hm with hm | hm
      · exact hx ⟨job, hm⟩
      · exact hm.ne_execute job rfl
    have hwait : ∀ w, a.2.wait? = some w → Onward t.wait w := fun w => onward_of_heed heq
    obtain ⟨d, course⟩ := a
    cases course with
    | goesOn next =>
      cases hu
      exact Task.alone_of_turn hplan
    | waits w next =>
      cases hu
      exact Task.alone_of_none (hwait w rfl).ne_page hplan
    | ends => cases hu

theorem Rests.alone {c : Client} {k : TaskId} {n : Next} {rest more : List Next} {w : Wait}
    (h : c.Rests n (.waiting w more)) (ht : Task.Alone ⟨k, .turn, n :: rest⟩) :
    Task.Alone ⟨k, w, more ++ rest⟩ := by
  have hrest : ∀ job, .execute job ∉ rest := by
    intro job hm
    obtain ⟨-, hn⟩ := ht.2 job (List.mem_cons_of_mem n hm)
    obtain ⟨-, rfl⟩ := List.cons.inj hn
    cases hm
  constructor
  · rintro job r rfl
    cases h with
    | refresh hw => exact hw.elim nofun nofun
    | start hw => exact hw.elim nofun nofun
    | page =>
      obtain ⟨-, hn⟩ := ht.2 job List.mem_cons_self
      exact (List.cons.inj hn).2
  · intro job hm
    rcases List.mem_append.1 hm with hm | hm
    · obtain ⟨_, _, hs⟩ := h.started hm
      cases hs
    · exact absurd hm (hrest job)

theorem lasting_alone : Lasting Task.Alone where
  granted := Task.alone_of_asGranted
  fresh := Fresh.alone
  begun k _ _ hb := Task.alone_of_turn (by cases hb <;> simp)
  execute k job := ⟨by simp, by simp⟩
  heed heq ht u := alone_of_heed heq ht
  done {k n rest} ht := by
    refine Task.alone_of_turn fun job hm => ?_
    obtain ⟨-, hn⟩ := ht.2 job (List.mem_cons_of_mem n hm)
    obtain ⟨-, rfl⟩ := List.cons.inj hn
    cases hm
  waiting := Rests.alone

/-- The acts in which a task begins to submit a result. -/
inductive Submits (c : Client) : Act → TaskId → JobResult → Prop
  | host {result : JobResult} : c.Submits (.submit result) c.taskCount result
  | page {k : TaskId} {job : Job} {r : Http.Request} {reply : Http.Reply} {next : List Next} :
      c.Submits (.wake ⟨k, .page job r, next⟩ (.reply reply)) k
        (Executor.result job (Fetch.document c.settings.requestTimeout job.url.text reply))
  | unasked {k : TaskId} {job : Job} {next : List Next} {fault : Error} :
      Fetch.request c.protection c.settings.userAgent job.url.text = .error fault →
      c.Submits (.wake ⟨k, .turn, .execute job :: next⟩ .go) k
        (Executor.result job (.error fault))

/-- What is so just before a task submits a result. -/
structure Ready (c d : Client) (k : TaskId) : Prop where
  entries : d.entries = c.entries
  registry : d.registry = c.registry
  queue : d.queue = c.queue
  signs : d.signs = c.signs
  ended : d.Over k
  count : k < d.taskCount

theorem Ready.owner? {c d : Client} {k : TaskId} (h : Ready c d k) (resourceId : String) :
    d.owner? resourceId = c.owner? resourceId := by
  simp only [Client.owner?, entry?, h.entries, h.registry]

theorem run_submit {c : Client} {k : TaskId} {result : JobResult} {id : EntryId}
    (h : c.owner? result.resourceId = some id) :
    run k [.submit result] c = run k [.attempt ⟨id, result, 1⟩] c := by
  simp only [run, perform, submit, h]

theorem run_submit_of_none {c : Client} {k : TaskId} {result : JobResult}
    (h : c.owner? result.resourceId = none) :
    run k [.submit result] c = c.log (.unknownSubmission result.resourceId) := by
  simp only [run, perform, submit, h]

theorem over_dropTask (c : Client) (k : TaskId) : (c.dropTask k).Over k := by
  intro t ht
  exact of_decide_eq_true (List.mem_filter.1 ht).2

theorem ready_dropTask {c : Client} (h : c.Sound) {t : Task} (ht : t ∈ c.tasks) :
    Ready c (c.dropTask t.id) t.id :=
  ⟨rfl, rfl, rfl, rfl, over_dropTask c t.id, h.numbered.below t ht⟩

/-- A task that begins to submit a result does nothing else, in this act and later. -/
theorem Submits.run {c : Client} (hc : Reachable c) {a : Act} (p : c.Permits a) {k : TaskId}
    {result : JobResult} (h : c.Submits a k result) :
    ∃ d, c.after a = run k [.submit result] d ∧ Ready c d k ∧
      (d.suspend k .turn [.submit result]).Sound := by
  cases h with
  | host =>
    have hs := hc.sound.undertakeSubmit result
    refine ⟨_, rfl, ⟨rfl, rfl, rfl, rfl, ?_, Nat.lt_succ_self _⟩, hs⟩
    exact fun t ht => Nat.ne_of_lt (hc.sound.numbered.below t ht)
  | @page _ job r reply next =>
    obtain rfl : next = [] := (lasting_alone.reachable hc _ p.1).1 job r rfl
    have hheed : (c.dropTask k).heed ⟨k, .page job r, []⟩ (.reply reply) =
        some (c.dropTask k, .goesOn [.submit (Executor.result job
          (Fetch.document c.settings.requestTimeout job.url.text reply))]) := rfl
    exact ⟨_, rfl, ready_dropTask hc.sound p.1, (hc.sound.resume p.1).heed hheed⟩
  | @unasked _ job next fault hf =>
    have hn := ((lasting_alone.reachable hc _ p.1).2 job List.mem_cons_self).2
    obtain rfl : next = [] := (List.cons.inj hn).2
    have hs : ((c.dropTask k).suspend k .turn [.execute job]).Sound := hc.sound.resume p.1
    refine ⟨c.dropTask k, ?_, ready_dropTask hc.sound p.1, ?_⟩
    · change Client.run k [.execute job] (c.dropTask k) = _
      have he : (c.dropTask k).execute job =
          (c.dropTask k).submit (Executor.result job (.error fault)) := by
        have hf : Fetch.request (c.dropTask k).protection (c.dropTask k).settings.userAgent
          job.url.text = .error fault := hf
        rw [execute, hf]
      simp only [Client.run, perform, he]
    · exact hs.step (.refl _) (l := [.submit _]) (by simp [Task.entries, Wait.entry?, Next.entry?])
        (by simp [Task.timers, Wait.timer?, Next.timer?])

end Client
end Harvest.Sync
