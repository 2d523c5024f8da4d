import Harvest.Proofs.Sync.Accounts
/-!
What tasks have still to do, and where it comes from. A task that is told something may get more to
do; what it does then leaves the plans of the others as they are, but for new tasks.
-/

namespace Harvest.Sync

/-- What a task has still to do on its course. -/
def Course.plan : Course → List Next
  | .goesOn next => next
  | .waits _ next => next
  | .ends => []

/-- What a task waits for on its course. -/
def Course.wait? : Course → Option Wait
  | .waits w _ => some w
  | _ => none

namespace Client

/-- The new tasks that come of what a task does. -/
inductive Fresh : Task → Prop
  | refresh {k : TaskId} {id : EntryId} : Fresh ⟨k, .turn, [.refresh id false]⟩
  | driver {k : TaskId} {driver : Nat} : Fresh ⟨k, .turn, [.beginDriver driver]⟩
  | timer {k : TaskId} {id : EntryId} {token : Token} : Fresh ⟨k, .turn, [.beginTimer id token]⟩
  | pause {k : TaskId} {id : EntryId} {token : Token} {delay : Nat} {name : String} :
      Fresh ⟨k, .turn, [.beginPause id token delay name]⟩

theorem Chore.fresh {c : Client} {t : Task} (h : c.Chore t) : Fresh t := by
  cases h with
  | refresh => exact .refresh
  | driver => exact .driver

theorem Fresh.of_asGranted {t u : Task} (h : Fresh u) (heq : t.asGranted = u.asGranted) :
    Fresh t := by
  obtain ⟨k, w, next⟩ := t
  cases h <;> cases w <;> simp_all [Task.asGranted, Wait.asGranted] <;> constructor

/-- Whether a task was there before, if only without the right to refresh that it has now. -/
def Kept (c : Client) (t : Task) : Prop := ∃ u ∈ c.tasks, t.asGranted = u.asGranted

theorem Kept.of_mem {c : Client} {t : Task} (h : t ∈ c.tasks) : c.Kept t := ⟨t, h, rfl⟩

theorem Kept.next {c : Client} {t : Task} (h : c.Kept t) :
    ∃ u ∈ c.tasks, t.id = u.id ∧ t.next = u.next := by
  obtain ⟨u, hu, heq⟩ := h
  refine ⟨u, hu, ?_, ?_⟩
  · rw [← Task.asGranted_id, heq, Task.asGranted_id]
  · rw [← Task.asGranted_next, heq, Task.asGranted_next]

/-- What a task gets to do when it is told something. -/
inductive Arises (c : Client) : Task → Signal → Next → Prop
  | submit {k : TaskId} {job : Job} {r : Http.Request} {reply : Http.Reply} {next : List Next} :
      c.Arises ⟨k, .page job r, next⟩ (.reply reply)
        (.submit (Executor.result job
          (Fetch.document c.settings.requestTimeout job.url.text reply)))
  | poll {k : TaskId} {id : EntryId} {token : Token} {ticker : Ticker} {next : List Next} :
      c.Arises ⟨k, .tick id token ticker, next⟩ .go (.poll id)
  | timer {k : TaskId} {id : EntryId} {token : Token} {ticker : Ticker} {next : List Next} :
      c.Arises ⟨k, .tick id token ticker, next⟩ .go (.timer id token (ticker.next c.now.clock))
  | start {k : TaskId} {id : EntryId} {token : Token} {due : Nat} {name : String}
      {next : List Next} : c.Arises ⟨k, .resume id token due name, next⟩ .go (.start id)
  | refetch {k : TaskId} {id : EntryId} {server : Server} {r : Http.Request} {reply : Http.Reply}
      {next : List Next} : c.Arises ⟨k, .jobs id server r, next⟩ (.reply reply) (.refresh id true)
  | enqueue {k : TaskId} {id : EntryId} {server : Server} {r : Http.Request} {reply : Http.Reply}
      {next : List Next} {answer : Coordinator.Jobs} :
      Coordinator.jobs c.settings.requestTimeout r reply = .ok answer →
      c.Arises ⟨k, .jobs id server r, next⟩ (.reply reply) (.enqueue server.id answer.jobs)
  | refresh {k : TaskId} {d : Delivery} {server : Server} {hash : String} {r : Http.Request}
      {reply : Http.Reply} {next : List Next} :
      c.Arises ⟨k, .submission d server hash r, next⟩ (.reply reply) (.refresh d.entry true)
  | attempt {k : TaskId} {d : Delivery} {server : Server} {hash : String} {r : Http.Request}
      {reply : Http.Reply} {next : List Next} :
      c.Arises ⟨k, .submission d server hash r, next⟩ (.reply reply)
        (.attempt { d with attempt := d.attempt + 1 })

theorem plan_pause (c : Client) (id : EntryId) (next : List Next) :
    (c.pause id next).2.plan.Sublist next := by
  rw [pause_eq]
  split
  · exact .refl _
  · split
    · exact List.nil_sublist _
    · exact .refl _

theorem plan_pollFailed (c : Client) (id : EntryId) (server : Server) (fault : Error)
    (next : List Next) : (c.pollFailed id server fault next).2.plan.Sublist next := by
  rw [pollFailed]
  split
  · exact plan_pause ..
  · exact .refl _

theorem wait?_pause (c : Client) (id : EntryId) (next : List Next) :
    (c.pause id next).2.wait? = none := by
  rw [pause_eq]
  split
  · rfl
  · split <;> rfl

theorem wait?_pollFailed (c : Client) (id : EntryId) (server : Server) (fault : Error)
    (next : List Next) : (c.pollFailed id server fault next).2.wait? = none := by
  rw [pollFailed]
  split
  · exact wait?_pause ..
  · rfl

/-- The waits that a task comes to as soon as it is told what it waited for. -/
inductive Onward : Wait → Wait → Prop
  | resources {id : EntryId} {forced : Bool} {server : Server} {r : Http.Request} :
      Onward (.granted id forced) (.resources id server r)
  | jobs {id : EntryId} {server : Server} {r : Http.Request} :
      Onward (.permission id server) (.jobs id server r)
  | drive {driver : Nat} {old new : Ticker} : Onward (.drive driver old) (.drive driver new)

theorem Onward.timer? {v w : Wait} (h : Onward v w) : w.timer? = none := by
  cases h <;> rfl

theorem Onward.ne_turn {v w : Wait} (h : Onward v w) : w ≠ .turn := by
  cases h <;> nofun

theorem onward_of_heed {c : Client} {t : Task} {s : Signal} {a : Client × Course}
    (h : c.heed t s = some a) {w : Wait} (hw : a.2.wait? = some w) : Onward t.wait w := by
  cases heeds_of_heed h with
  | granted =>
    unfold refresh at hw
    split at hw
    · cases hw
    · split at hw
      · cases hw
      · split at hw
        · cases hw
        · cases hw
          exact .resources
  | permission =>
    unfold permitted at hw
    split at hw
    · cases (wait?_pollFailed ..).symm.trans hw
    · cases hw
      exact .jobs
  | jobs =>
    unfold polled at hw
    split at hw
    · cases (wait?_pollFailed ..).symm.trans hw
    · dsimp only at hw
      split at hw <;> cases hw
  | submission =>
    unfold delivered at hw
    dsimp only at hw
    split at hw
    · cases hw
    · cases hw
    · cases hw
    · split at hw
      · cases hw
      · cases (wait?_pause ..).symm.trans hw
  | drive hc =>
    rcases hc with rfl | ⟨_, rfl⟩
    · cases hw
    · cases hw
      exact .drive
  | _ => cases hw

theorem plan_refresh (c : Client) (id : EntryId) (forced : Bool) (next : List Next) :
    (c.refresh id forced next).2.plan = next := by
  unfold refresh
  split
  · rfl
  · split
    · rfl
    · split <;> rfl

/-- What a task does after it was told something was planned, or arises from what it was told. -/
theorem planned_of_heed {c : Client} {t : Task} {s : Signal} {a : Client × Course}
    (h : c.heed t s = some a) {n : Next} (hn : n ∈ a.2.plan) : n ∈ t.next ∨ c.Arises t s n := by
  cases heeds_of_heed h with
  | turn => exact .inl hn
  | granted =>
    rw [plan_refresh] at hn
    exact .inl hn
  | resources => exact .inl hn
  | permission =>
    unfold permitted at hn
    split at hn
    · exact .inl ((plan_pollFailed ..).subset hn)
    · exact .inl hn
  | @jobs k id server r reply next =>
    unfold polled at hn
    split at hn
    · exact .inl ((plan_pollFailed ..).subset hn)
    · rename_i answer ha
      dsimp only at hn
      split at hn
      · rcases List.mem_cons.1 hn with rfl | hn
        · exact .inr .refetch
        · rcases List.mem_cons.1 hn with rfl | hn
          · exact .inr (.enqueue ha)
          · exact .inl hn
      · rcases List.mem_cons.1 hn with rfl | hn
        · exact .inr (.enqueue ha)
        · exact .inl hn
  | submission =>
    unfold delivered at hn
    dsimp only at hn
    split at hn
    · exact .inl hn
    · exact .inl hn
    · exact .inl hn
    · split at hn
      · rcases List.mem_cons.1 hn with rfl | hn
        · exact .inr .refresh
        · rcases List.mem_cons.1 hn with rfl | hn
          · exact .inr .attempt
          · exact .inl hn
      · exact .inl ((plan_pause ..).subset hn)
  | page =>
    rcases List.mem_cons.1 hn with rfl | hn
    · exact .inr .submit
    · exact .inl hn
  | tick =>
    rcases List.mem_cons.1 hn with rfl | hn
    · exact .inr .poll
    · rcases List.mem_cons.1 hn with rfl | hn
      · exact .inr .timer
      · exact .inl hn
  | resume =>
    rcases List.mem_cons.1 hn with rfl | hn
    · exact .inr .start
    · exact .inl hn
  | drive hc =>
    rcases hc with rfl | ⟨_, rfl⟩
    · cases hn
    · exact .inl hn
  | tickCancelled => cases hn
  | resumeCancelled => cases hn

/-! Tasks -/

theorem mem_tasks_pause {c : Client} {id : EntryId} {next : List Next} {t : Task}
    (ht : t ∈ (c.pause id next).1.tasks) : t ∈ c.tasks ∨ Fresh t := by
  rw [pause_eq] at ht
  split at ht
  · exact .inl ht
  · split at ht
    · exact .inl ht
    · rcases List.mem_append.1 ht with ht | ht
      · exact .inl ht
      · obtain rfl := List.mem_singleton.1 ht
        exact .inr .pause

theorem Told.mem_tasks {c : Client} {t : Task} {s : Signal} {a : Client × Course}
    (h : c.Told t s a) {u : Task} (hu : u ∈ a.1.tasks) : c.Kept u ∨ Fresh u := by
  cases h with
  | quiet _ q => exact (q.mem_tasks hu).imp_right Chore.fresh
  | counted _ _ q => exact (q.mem_tasks hu).imp_right fun h => h.fresh
  | paused _ _ q =>
    rcases mem_tasks_pause hu with hu | hu
    · exact (q.mem_tasks hu).imp_right fun h => h.fresh
    · exact .inr hu

theorem Performs.mem_tasks {c d : Client} {n : Next} (h : c.Performs n d) {t : Task}
    (ht : t ∈ d.tasks) : c.Kept t ∨ Fresh t := by
  cases h with
  | start q => exact (q.mem_tasks ht).imp_right Chore.fresh
  | timer =>
    rcases List.mem_append.1 ht with ht | ht
    · exact .inl (.of_mem ht)
    · obtain rfl := List.mem_singleton.1 ht
      exact .inr .timer
  | quiet _ q => exact (q.mem_tasks ht).imp_right Chore.fresh

theorem Performs.cancelled {c d : Client} {n : Next} (h : c.Performs n d) :
    c.cancelled ⊆ d.cancelled := by
  intro token ht
  cases h with
  | start q =>
    rw [q.cancelled]
    exact List.mem_append_left _ ht
  | timer => exact ht
  | quiet _ q =>
    rw [q.cancelled]
    exact ht

/-- A task that has come to a wait by one of the things that it had to do. -/
inductive Rested (c : Client) (k : TaskId) (next : List Next) : Task → Prop
  | intro {d : Client} {n : Next} {w : Wait} {more rest : List Next} :
      c.cancelled ⊆ d.cancelled → Frame c d → n ∈ doing k next c → rest ⊆ next →
      d.Rests n (.waiting w more) → Rested c k next ⟨k, w, more ++ rest⟩

theorem Rested.next {c : Client} {k : TaskId} {next : List Next} {t : Task}
    (h : Rested c k next t) {n : Next} (hn : n ∈ t.next) :
    n ∈ next ∨ ∃ id token, n = .started id token := by
  cases h with
  | intro _ _ _ hrest hr =>
    rcases List.mem_append.1 hn with hn | hn
    · exact .inr (hr.started hn)
    · exact .inl (hrest hn)

theorem mem_tasks_run {k : TaskId} {next : List Next} {c : Client}
    (h : (c.suspend k .turn next).Sound) {t : Task} (ht : t ∈ (run k next c).tasks) :
    c.Kept t ∨ Fresh t ∨ Rested c k next t := by
  induction next generalizing c with
  | nil => exact .inl (.of_mem ht)
  | cons n rest ih =>
    have hp := h.perform
    have hr := rests_perform c k n
    have hd := h.performs
    have hf : Frame c (c.perform k n).1 := (Frame.refl c).perform k n
    rw [run] at ht
    generalize heq : c.perform k n = a at hp hr hd hf ht
    obtain ⟨d, p⟩ := a
    cases p with
    | done =>
      have hdoing := doing_cons_of_done heq rest
      rcases ih hp ht with ⟨u, hu, heq⟩ | hf | hrest
      · rcases hd.mem_tasks hu with ⟨v, hv, hvu⟩ | hf
        · exact .inl ⟨v, hv, heq.trans hvu⟩
        · exact .inr (.inl (hf.of_asGranted heq))
      · exact .inr (.inl hf)
      · obtain ⟨hcancelled, hframe, hn, hsub, hw⟩ := hrest
        refine .inr (.inr (.intro (List.Subset.trans hd.cancelled hcancelled) (hf.trans hframe) ?_ ?_
          hw))
        · rw [hdoing]
          exact List.mem_cons_of_mem n hn
        · exact List.Subset.trans hsub (List.subset_cons_self n rest)
    | waiting w more =>
      rcases List.mem_append.1 ht with ht | ht
      · exact (hd.mem_tasks ht).imp_right .inl
      · obtain rfl := List.mem_singleton.1 ht
        refine .inr (.inr (.intro (List.Subset.refl _) (.refl c) ?_ (List.subset_cons_self n rest)
          hr))
        rw [doing_cons_of_waiting heq]
        exact List.mem_cons_self

theorem doing_prefix {k : TaskId} {next : List Next} {c : Client} : doing k next c <+: next := by
  induction next generalizing c with
  | nil => exact List.prefix_rfl
  | cons n rest ih =>
    rw [doing, List.prefix_cons_inj]
    split
    · exact ih
    · exact List.nil_prefix

theorem mem_of_mem_doing {k : TaskId} {n : Next} {next : List Next} {c : Client}
    (h : n ∈ doing k next c) : n ∈ next :=
  doing_prefix.subset h

/-- Why something is done in an act: the task that goes on in it had planned it, or it arises from
    what the task is told, or the host asks for it. -/
inductive Occasion (c : Client) : Next → Act → Prop
  | planned {t : Task} {s : Signal} {n : Next} : n ∈ t.next → Occasion c n (.wake t s)
  | arises {t : Task} {s : Signal} {n : Next} :
      (c.dropTask t.id).Arises t s n → Occasion c n (.wake t s)
  | start {serverId : String} {id : EntryId} :
      c.registered? serverId = some id → Occasion c (.start id) (.start serverId)
  | startAll {id : EntryId} : Occasion c (.start id) .startAll
  | submit {r : JobResult} : Occasion c (.submit r) (.submit r)

theorem occasion_of_doneBy {c : Client} {a : Act} {n : Next} (h : n ∈ c.doneBy a) :
    Occasion c n a := by
  cases a with
  | wake t s =>
    rw [doneBy] at h
    split at h
    · rename_i d next heq
      rcases planned_of_heed heq (mem_of_mem_doing h) with hn | hn
      · exact .planned hn
      · exact .arises hn
    · cases h
  | start serverId =>
    rw [doneBy_start] at h
    split at h
    · cases h
    · rename_i id hid
      obtain rfl := List.mem_singleton.1 (mem_of_mem_doing h)
      exact .start hid
  | startAll =>
    obtain ⟨r, -, rfl⟩ := List.mem_map.1 (mem_of_mem_doing h)
    exact .startAll
  | submit r =>
    obtain rfl := List.mem_singleton.1 (mem_of_mem_doing h)
    exact .submit
  | _ => cases h

end Client
end Harvest.Sync
