import Harvest.Proofs.Sync.Courses
import Harvest.Proofs.Sync.Passing
import Harvest.Proofs.Sync.Runs
import Harvest.Proofs.Sync.Turns
/-!
The jobs that servers issue, from the answers to polls to the verdicts on them. Each answer brings a
batch of jobs, which enters the queue once: at once, or at the end of the refresh that the answer
asks for. The queue gives the jobs out in the order in which they entered it.
-/

/-! Batches -/

namespace Harvest.Sync

/-- The jobs of an answer to a poll, with the server that issued them. -/
abbrev Batch := String × List Job.Parameters

def Batch.queued (b : Batch) : List Queued := b.2.map fun p => ⟨b.1, p⟩

def Next.batch? : Next → Option Batch
  | .enqueue serverId jobs => some (serverId, jobs)
  | _ => none

def batches (l : List Next) : List Batch := l.filterMap Next.batch?

theorem batches_append (l m : List Next) : batches (l ++ m) = batches l ++ batches m :=
  List.filterMap_append

theorem batches_cons (n : Next) (l : List Next) :
    batches (n :: l) = n.batch?.toList ++ batches l :=
  Client.filterMap_cons_toList Next.batch? n l

theorem queued_eq (l : List Next) : l.flatMap Next.queued = (batches l).flatMap Batch.queued := by
  induction l with
  | nil => rfl
  | cons n l ih =>
    have hn : n.queued = n.batch?.toList.flatMap Batch.queued := by
      cases n <;> simp [Next.batch?, Next.queued, Batch.queued]
    rw [List.flatMap_cons, ih, hn, batches_cons, List.flatMap_append]

theorem batches_eq_nil {l : List Next} (h : ∀ n ∈ l, n.batch? = none) : batches l = [] :=
  List.filterMap_eq_nil_iff.2 h

theorem batches_starts (ids : List EntryId) : batches (ids.map .start) = [] := by
  refine batches_eq_nil fun n hn => ?_
  obtain ⟨id, -, rfl⟩ := List.mem_map.1 hn
  rfl

theorem Tail.no_batches {id : EntryId} {l : List Next} (h : Tail id l) : batches l = [] := by
  cases h with
  | starts ids => exact batches_starts ids
  | timer => rfl

theorem Tail.no_enqueue {id : EntryId} {l : List Next} (h : Tail id l) {serverId : String}
    {jobs : List Job.Parameters} : .enqueue serverId jobs ∉ l := by
  intro hm
  cases List.filterMap_eq_nil_iff.1 h.no_batches _ hm

theorem Sequel.of_enqueue {id : EntryId} {forced : Bool} {l : List Next} (h : Sequel id forced l)
    {serverId : String} {jobs : List Job.Parameters} (hm : .enqueue serverId jobs ∈ l) :
    forced = true ∧ ∃ more, l = .enqueue serverId jobs :: more := by
  cases h with
  | scheduled => cases hm
  | started ids =>
    rcases List.mem_cons.1 hm with hm | hm
    · cases hm
    · exact absurd hm (@Tail.starts id ids).no_enqueue
  | enqueue tail =>
    rcases List.mem_cons.1 hm with hm | hm
    · obtain ⟨rfl, rfl⟩ := Next.enqueue.inj hm
      exact ⟨rfl, _, rfl⟩
    · exact absurd hm tail.no_enqueue
  | attempt tail =>
    rcases List.mem_cons.1 hm with hm | hm
    · cases hm
    · exact absurd hm tail.no_enqueue

theorem Client.Fresh.no_batches {t : Task} (h : Fresh t) : batches t.next = [] := by
  cases h <;> rfl

namespace Client

/-- The batches that wait in the plans of tasks. -/
def onHand (c : Client) : List Batch := c.tasks.flatMap fun t => batches t.next

/-- The answer to a poll that an act brings, with the server that gave it. -/
def answer? (c : Client) : Act → Option (Server × Coordinator.Jobs)
  | .wake ⟨_, .jobs _ server r, _⟩ (.reply reply) =>
    match Coordinator.jobs c.settings.requestTimeout r reply with
    | .ok answer => some (server, answer)
    | .error _ => none
  | _ => none

def answered (c : Client) (a : Act) : List Batch :=
  (c.answer? a).toList.map fun x => (x.1.id, x.2.jobs)

/-- The batches that enter the queue in an act. -/
def entered (c : Client) (a : Act) : List Batch := batches (c.doneBy a)

/-- The batches that are to enter the queue in an act: that of an answer that asks for no refresh,
    and one that waits for the end of a refresh when the refresh ends, in whatever way. -/
def due (c : Client) (a : Act) : List Batch :=
  match a with
  | .wake ⟨_, .jobs .., _⟩ (.reply _) =>
    if (c.answer? a).any (·.2.wantsResources) then [] else c.answered a
  | .wake ⟨_, .resources .., next⟩ (.reply _) => batches next
  | .wake ⟨_, .granted id true, next⟩ .go =>
    match (c.entry? id).map fun e =>
        Coordinator.resourcesRequest c.settings.userAgent e.server with
    | some (.ok _) => []
    | _ => batches next
  | _ => []

/-! No batch is lost or doubled. -/

section

variable {c d : Client} {k : TaskId}

theorem Adds.onHand {xs : List Task} (h : Adds c d xs) (hxs : ∀ t ∈ xs, Fresh t) :
    d.onHand.Perm c.onHand := by
  have hp := h.tasks.flatMap_right fun t => batches t.next
  have hfresh : (xs.flatMap fun t => batches t.next) = [] :=
    List.flatMap_eq_nil_iff.2 fun t ht => (hxs t ht).no_batches
  rw [List.flatMap_append, hfresh, List.append_nil, List.flatMap_map, List.flatMap_map] at hp
  exact hp

theorem onHand_suspend (c : Client) (k : TaskId) (w : Wait) (next : List Next) :
    (c.suspend k w next).onHand = c.onHand ++ batches next := by
  rw [onHand, suspend, List.flatMap_append, List.flatMap_singleton]
  rfl

theorem onHand_run {next : List Next} (h : (c.suspend k .turn next).Sound) :
    (batches next ++ c.onHand).Perm (batches (doing k next c) ++ (run k next c).onHand) := by
  induction next generalizing c with
  | nil => exact .refl _
  | cons n rest ih =>
    have hp := h.perform
    have hr := rests_perform c k n
    obtain ⟨xs, hx, hxs⟩ := h.performs.adds
    have hd := hx.onHand hxs
    rw [run, doing, batches_cons, batches_cons, List.append_assoc, List.append_assoc]
    refine List.Perm.append_left _ ?_
    generalize c.perform k n = a at hp hr hd
    obtain ⟨d, p⟩ := a
    cases p with
    | done =>
      calc
        (batches rest ++ c.onHand).Perm (batches rest ++ d.onHand) := hd.symm.append_left _
        _ |>.Perm (batches (doing k rest d) ++ (run k rest d).onHand) := ih hp
    | waiting w more =>
      have hmore : batches more = [] := batches_eq_nil fun n hn => by
        obtain ⟨_, _, rfl⟩ := hr.started hn
        rfl
      calc
        (batches rest ++ c.onHand).Perm (d.onHand ++ batches rest) :=
          List.perm_append_comm.trans (hd.symm.append_right _)
        _ |>.Perm (d.suspend k w (more ++ rest)).onHand := by
          rw [onHand_suspend, batches_append, hmore]
          exact .refl _

theorem batches_doing {next : List Next} (h : batches next = []) :
    batches (doing k next c) = [] := by
  have hp : batches (doing k next c) <+: batches next :=
    List.IsPrefix.filterMap _ doing_prefix
  rw [h] at hp
  exact List.prefix_nil.1 hp

theorem batches_sublist {l m : List Next} (h : batches l = []) (hm : m.Sublist l) :
    batches m = [] :=
  batches_eq_nil fun n hn => List.filterMap_eq_nil_iff.1 h n (hm.subset hn)

/-- A task that is told something keeps its batches, and gets those of an answer. -/
theorem batches_heed {t : Task} {s : Signal} (staged : t.Staged) {b : Client × Course}
    (heq : (c.dropTask t.id).heed t s = some b) :
    batches t.next ++ c.answered (.wake t s) = batches b.2.plan := by
  obtain ⟨k, w, next⟩ := t
  have hs : (c.dropTask k).settings = c.settings := rfl
  cases heeds_of_heed heq with
  | turn => exact List.append_nil _
  | granted =>
    rw [plan_refresh]
    exact List.append_nil _
  | resources => exact List.append_nil _
  | permission =>
    cases staged with
    | right hg => cases hg
    | permission tail =>
      have hnext := tail.no_batches
      unfold permitted
      split
      · rw [batches_sublist hnext (plan_pollFailed ..)]
        exact (List.append_nil _).trans hnext
      · exact List.append_nil _
  | @jobs _ id server r reply =>
    cases staged with
    | right hg => cases hg
    | jobs tail =>
      have hnext := tail.no_batches
      rw [answered, answer?, hs]
      cases Coordinator.jobs c.settings.requestTimeout r reply with
      | error =>
        rw [polled, batches_sublist hnext (plan_pollFailed ..)]
        exact (List.append_nil _).trans hnext
      | ok answer =>
        rw [polled]
        dsimp only
        split <;> simp [Course.plan, batches_cons, Next.batch?, hnext]
  | submission =>
    cases staged with
    | right hg => cases hg
    | submission tail =>
      have hnext := tail.no_batches
      unfold delivered
      dsimp only
      split
      · exact List.append_nil _
      · exact List.append_nil _
      · exact List.append_nil _
      · split
        · exact List.append_nil _
        · rw [batches_sublist hnext (plan_pause ..)]
          exact (List.append_nil _).trans hnext
  | page | tick | resume => exact List.append_nil _
  | drive hc =>
    cases staged with
    | right hg => cases hg
    | drive => rcases hc with rfl | ⟨_, rfl⟩ <;> rfl
  | tickCancelled | resumeCancelled =>
    cases staged with
    | right hg => cases hg
    | _ => rfl

theorem answered_of_heed_none {t : Task} {s : Signal} (heq : (c.dropTask t.id).heed t s = none) :
    c.answered (.wake t s) = [] := by
  obtain ⟨k, w, next⟩ := t
  cases w with
  | jobs =>
    cases s with
    | reply => cases heq
    | _ => rfl
  | _ => rfl

end

/-! What is left -/

theorem onHand_wake {c : Client} (h : Reachable c) {t : Task} (ht : t ∈ c.tasks) (s : Signal) :
    (c.onHand ++ c.answered (.wake t s)).Perm
      (c.entered (.wake t s) ++ (c.after (.wake t s)).onHand) := by
  have hsound := h.sound
  have hdrop : (c.dropTask t.id).Sound := (hsound.resume ht).of_suspend
  cases heq : (c.dropTask t.id).heed t s with
  | none =>
    have hafter : c.after (.wake t s) = c := by rw [after, wake, heq]
    have hentered : c.entered (.wake t s) = [] := by rw [entered, doneBy, heq]; rfl
    rw [hafter, hentered, answered_of_heed_none heq, List.append_nil]
    exact .refl _
  | some b =>
    obtain ⟨xs, hx, hxs⟩ := (told_of_heed hdrop.numbered hdrop.registered heq).adds
    have hb := hx.onHand hxs
    have hplan := batches_heed (h.staged ht) heq
    have hrest : (c.onHand ++ c.answered (.wake t s)).Perm (batches b.2.plan ++ b.1.onHand) := by
      have hp : c.onHand.Perm (batches t.next ++ (c.dropTask t.id).onHand) :=
        (hsound.numbered.tasks_perm ht).flatMap_right fun t : Task => batches t.next
      calc
        (c.onHand ++ c.answered (.wake t s)).Perm
            (batches t.next ++ (c.dropTask t.id).onHand ++ c.answered (.wake t s)) :=
          hp.append_right _
        _ |>.Perm (batches t.next ++ (c.answered (.wake t s) ++ (c.dropTask t.id).onHand)) := by
          rw [List.append_assoc]
          exact List.perm_append_comm.append_left _
        _ |>.Perm (batches b.2.plan ++ b.1.onHand) := by
          rw [← List.append_assoc, hplan]
          exact hb.symm.append_left _
    refine hrest.trans ?_
    have hs := (hsound.resume ht).heed heq
    rw [after, wake, entered, doneBy, heq]
    obtain ⟨d, course⟩ := b
    cases course with
    | goesOn next => exact onHand_run hs
    | waits w next =>
      refine List.perm_append_comm.trans ?_
      exact .of_eq (onHand_suspend d t.id w next).symm
    | ends => exact .refl _

theorem answered_of_host {c : Client} {a : Act} (h : ∀ t s, a ≠ .wake t s) : c.answered a = [] := by
  cases a with
  | wake t s => exact absurd rfl (h t s)
  | _ => rfl

theorem Begun.no_batches {c : Client} {l : List Next} (h : c.Begun l) : batches l = [] := by
  cases h with
  | start => exact batches_starts _
  | submit => rfl

/-- The batches on hand and those that an answer brings have entered the queue after an act, or are
    on hand. -/
theorem onHand_after {c : Client} (h : Reachable c) {a : Act} (p : c.Permits a) :
    (c.onHand ++ c.answered a).Perm (c.entered a ++ (c.after a).onHand) := by
  have same : ∀ d : Client, (∀ t s, a ≠ .wake t s) → c.entered a = [] → d.onHand.Perm c.onHand →
      (c.onHand ++ c.answered a).Perm (c.entered a ++ d.onHand) := by
    intro d host entered hd
    rw [answered_of_host host, entered, List.append_nil]
    exact hd.symm
  have hs := step_after h.sound p
  generalize hd : c.after a = d at hs
  cases hs with
  | @wake t s ht =>
    rw [← hd]
    exact onHand_wake h ht s
  | addServer s =>
    refine same _ (by simp) rfl ?_
    rw [onHand, tasks_addServer]
    exact .refl _
  | execute job =>
    refine same _ (by simp) rfl (.of_eq ?_)
    exact List.flatMap_append.trans (List.append_nil _)
  | still ho _ _ tasks =>
    refine same _ ho.host (congrArg batches ho.done) ?_
    rw [onHand, tasks]
    exact .refl _
  | @stops _ queue ids ho =>
    refine same _ ho.host (congrArg batches ho.done) ?_
    rw [onHand, (unchanged_stopEntries ids { c with queue := queue }).1]
    exact .refl _
  | @begins _ e next ho _ q hbegun hs =>
    obtain ⟨xs, hx, hxs⟩ := q.adds
    have he : e.onHand.Perm c.onHand := hx.onHand fun u hu => (hxs u hu).fresh
    have hnext := hbegun.no_batches
    have hrun := onHand_run hs
    rw [hnext, batches_doing hnext] at hrun
    refine same _ ho.host ?_ (hrun.symm.trans he)
    rw [entered, ho.done]
    exact batches_doing hnext

/-! When batches enter the queue -/

theorem batches_doing_enqueue {id : EntryId} {l : List Next} (h : Tail id l) (c : Client)
    (k : TaskId) (serverId : String) (jobs : List Job.Parameters) :
    batches (doing k (.enqueue serverId jobs :: l) c) = [(serverId, jobs)] := by
  rw [doing_cons_of_done rfl, batches_cons, batches_doing h.no_batches]
  rfl

theorem batches_doing_sequel {id : EntryId} {forced : Bool} {l : List Next}
    (h : Sequel id forced l) (c : Client) (k : TaskId) :
    batches (doing k l c) = batches l := by
  cases h with
  | scheduled => rfl
  | @started _ token ids =>
    have hl := (batches_cons (.started id token) _).trans (batches_starts ids)
    rw [batches_doing hl, hl]
  | enqueue tail =>
    rw [batches_doing_enqueue tail, batches_cons, tail.no_batches]
    rfl
  | @attempt d _ _ tail =>
    have hl := (batches_cons (.attempt d) _).trans tail.no_batches
    rw [batches_doing hl, hl]

theorem doing_refresh {c : Client} {id : EntryId} {e : Entry} (he : c.entry? id = some e)
    (k : TaskId) (forced : Bool) (rest : List Next) :
    doing k (.refresh id forced :: rest) c = [.refresh id forced] := by
  obtain ⟨w, hw, -⟩ := acquire_waits he k forced
  have hp : c.perform k (.refresh id forced) = ((c.acquire k id forced).1, .waiting w []) :=
    Prod.ext rfl hw
  exact doing_cons_of_waiting hp rest

theorem entered_of_plan {c : Client} {t : Task} {s : Signal} {b : Client × Course}
    (heq : (c.dropTask t.id).heed t s = some b) (h : batches b.2.plan = []) :
    c.entered (.wake t s) = [] := by
  obtain ⟨d, course⟩ := b
  rw [entered, doneBy, heq]
  cases course with
  | goesOn next => exact batches_doing h
  | _ => rfl

theorem due_of_heed_none {c : Client} {t : Task} {s : Signal}
    (heq : (c.dropTask t.id).heed t s = none) : c.due (.wake t s) = [] := by
  obtain ⟨k, w, next⟩ := t
  cases w with
  | granted id forced =>
    cases s with
    | go => cases heq
    | _ => cases forced <;> rfl
  | resources | jobs =>
    cases s with
    | reply => cases heq
    | _ => rfl
  | _ => rfl

theorem due_of_host {c : Client} {a : Act} (h : ∀ t s, a ≠ .wake t s) : c.due a = [] := by
  cases a with
  | wake t s => exact absurd rfl (h t s)
  | _ => rfl

theorem entered_granted {c : Client} {k : TaskId} {id : EntryId} {forced : Bool} {e : Entry}
    (he : c.entry? id = some e) {l : List Next} (h : Sequel id forced l) :
    c.entered (.wake ⟨k, .granted id forced, l⟩ .go) =
      c.due (.wake ⟨k, .granted id forced, l⟩ .go) := by
  have heq : (c.dropTask k).heed ⟨k, .granted id forced, l⟩ .go =
      some ((c.dropTask k).refresh id forced l) := rfl
  cases forced with
  | false =>
    refine entered_of_plan heq ?_
    rw [plan_refresh]
    cases h with
    | scheduled => rfl
    | started ids => exact (batches_cons ..).trans (batches_starts ids)
  | true =>
    have hd : Client.entry? (c.dropTask k) id = some e := he
    have hs : (c.dropTask k).settings = c.settings := rfl
    rw [entered, doneBy, heq, refresh, hd, hs, due, he]
    dsimp only [Option.map_some, if_true]
    cases Coordinator.resourcesRequest c.settings.userAgent e.server with
    | error => exact batches_doing_sequel h ..
    | ok => rfl

theorem entered_jobs {c : Client} {k : TaskId} {id : EntryId} {server : Server} {r : Http.Request}
    {e : Entry} (he : c.entry? id = some e) {l : List Next} (h : Tail id l) (reply : Http.Reply) :
    c.entered (.wake ⟨k, .jobs id server r, l⟩ (.reply reply)) =
      c.due (.wake ⟨k, .jobs id server r, l⟩ (.reply reply)) := by
  have heq : (c.dropTask k).heed ⟨k, .jobs id server r, l⟩ (.reply reply) =
      some ((c.dropTask k).polled id server
        (Coordinator.jobs c.settings.requestTimeout r reply) l) := rfl
  cases hans : Coordinator.jobs c.settings.requestTimeout r reply with
  | error fault =>
    have hnone : c.answer? (.wake ⟨k, .jobs id server r, l⟩ (.reply reply)) = none := by
      rw [answer?, hans]
    rw [due, answered, hnone, entered_of_plan heq]
    · rfl
    · rw [hans]
      exact batches_sublist h.no_batches (plan_pollFailed ..)
  | ok a =>
    have hsome : c.answer? (.wake ⟨k, .jobs id server r, l⟩ (.reply reply)) = some (server, a) := by
      rw [answer?, hans]
    rw [entered, doneBy, heq, hans, polled, due, answered, hsome]
    cases hwants : a.wantsResources with
    | false =>
      simp only [Option.any_some, hwants]
      exact batches_doing_enqueue h ..
    | true =>
      -- the server is known, so that the task waits for the right to refresh
      have hd : Client.entry? (((c.dropTask k).emit (.polled server a.jobs)).log
          (.refetchRequested server)) id = some e := he
      simp only [Option.any_some, hwants, if_true, doing_refresh hd]
      rfl

theorem entered_wake {c : Client} (h : Reachable c) {t : Task} (ht : t ∈ c.tasks) (s : Signal) :
    c.entered (.wake t s) = c.due (.wake t s) := by
  have staged := h.staged ht
  cases heq : (c.dropTask t.id).heed t s with
  | none => rw [due_of_heed_none heq, entered, doneBy, heq]; rfl
  | some b =>
    have known : ∀ id, t.wait.entry? = some id → ∃ e, c.entry? id = some e := fun id hid =>
      exists_entry? (c := c) ((h.sound.resume ht).known_of_suspend (by simp [Task.entries, hid]))
    have hplan := batches_heed staged heq
    have nothing : batches t.next = [] → c.answered (.wake t s) = [] →
        c.entered (.wake t s) = [] := fun hnext hans =>
      entered_of_plan heq (hplan.symm.trans (by rw [hnext, hans]; rfl))
    cases heeds_of_heed heq with
    | turn =>
      refine nothing ?_ rfl
      rcases h.turn_of_mem ht rfl with hf | ⟨job, hj⟩
      · exact hf.no_batches
      · rw [hj]
        rfl
    | granted =>
      obtain ⟨e, he⟩ := known _ rfl
      cases staged with
      | right hg hl =>
        cases hg
        exact entered_granted he hl
    | resources =>
      cases staged with
      | right hg => cases hg
      | resources hl => exact batches_doing_sequel hl ..
    | jobs =>
      obtain ⟨e, he⟩ := known _ rfl
      cases staged with
      | right hg => cases hg
      | jobs tail => exact entered_jobs he tail _
    | permission =>
      cases staged with
      | right hg => cases hg
      | permission tail => exact nothing tail.no_batches rfl
    | submission =>
      cases staged with
      | right hg => cases hg
      | submission tail => exact nothing tail.no_batches rfl
    | page | tick | resume | drive | tickCancelled | resumeCancelled =>
      cases staged with
      | right hg => cases hg
      | _ => exact nothing rfl rfl

/-- A batch enters the queue as soon as it is answered, or as soon as the refresh that comes before
    it has ended. -/
theorem entered_eq_due {c : Client} (h : Reachable c) {a : Act} (p : c.Permits a) :
    c.entered a = c.due a := by
  have host : (∀ t s, a ≠ .wake t s) → c.entered a = [] → c.entered a = c.due a :=
    fun ha hentered => hentered.trans (due_of_host ha).symm
  have hs := step_after h.sound p
  generalize c.after a = d at hs
  cases hs with
  | @wake t s ht => exact entered_wake h ht s
  | addServer s => rfl
  | execute job => rfl
  | still ho => exact host ho.host (congrArg batches ho.done)
  | stops ho => exact host ho.host (congrArg batches ho.done)
  | begins ho _ _ hbegun =>
    refine host ho.host ?_
    rw [entered, ho.done]
    exact batches_doing hbegun.no_batches

/-- A batch waits for the end of a refresh that is forced. -/
theorem waiting_of_enqueue {c : Client} (h : Reachable c) {t : Task} (ht : t ∈ c.tasks)
    {serverId : String} {jobs : List Job.Parameters} (hm : .enqueue serverId jobs ∈ t.next) :
    ∃ id more, t.next = .enqueue serverId jobs :: more ∧
      (t.wait.asGranted = .granted id true ∨ ∃ server r, t.wait = .resources id server r) := by
  have staged := h.staged ht
  obtain ⟨k, w, next⟩ := t
  cases staged with
  | turn =>
    rcases h.turn_of_mem ht rfl with hf | ⟨job, hj⟩
    · exact absurd hm hf.not_enqueue
    · obtain rfl : next = [.execute job] := hj
      cases List.mem_singleton.1 hm
  | right hg hl =>
    obtain ⟨rfl, more, rfl⟩ := hl.of_enqueue hm
    exact ⟨_, more, rfl, .inl hg⟩
  | resources hl =>
    obtain ⟨rfl, more, rfl⟩ := hl.of_enqueue hm
    exact ⟨_, more, rfl, .inr ⟨_, _, rfl⟩⟩
  | permission tail | jobs tail | submission tail => exact absurd hm tail.no_enqueue
  | page | tick | resume | drive => cases hm

/-- An act that brings an answer which asks for a refresh, and the task that then has its batch. -/
inductive Refetches (c : Client) : Act → Task → Prop
  | intro {k : TaskId} {id : EntryId} {server : Server} {r : Http.Request} {next : List Next}
      {reply : Http.Reply} {answer : Coordinator.Jobs} :
      Coordinator.jobs c.settings.requestTimeout r reply = .ok answer →
      answer.wantsResources = true →
      c.Refetches (.wake ⟨k, .jobs id server r, next⟩ (.reply reply))
        ⟨k, .granted id true, .enqueue server.id answer.jobs :: next⟩

/-- A task with such an answer waits for the right to refresh, if it has not got it. -/
theorem Refetches.stands {c : Client} (h : c.Sound) {a : Act} (p : c.Permits a) {t : Task}
    (ha : c.Refetches a t) : (c.after a).Stands t := by
  obtain @⟨k, id, server, r, next, reply, answer, hans, hwants⟩ := ha
  have ht : ⟨k, .jobs id server r, next⟩ ∈ c.tasks := p.1
  let d := ((c.dropTask k).emit (.polled server answer.jobs)).log (.refetchRequested server)
  let plan := .refresh id true :: .enqueue server.id answer.jobs :: next
  have heq : (c.dropTask k).heed ⟨k, .jobs id server r, next⟩ (.reply reply) =
      some ((c.dropTask k).polled id server
        (Coordinator.jobs c.settings.requestTimeout r reply) next) := rfl
  have hpolled : (c.dropTask k).polled id server (.ok answer) next = (d, .goesOn plan) :=
    if_pos hwants
  have hafter : c.after (.wake ⟨k, .jobs id server r, next⟩ (.reply reply)) = run k plan d := by
    rw [after, wake, heq, hans, hpolled]
    rfl
  have hid : id < d.entries.length :=
    (h.resume ht).known_of_suspend (by simp [Task.entries, Wait.entry?])
  obtain ⟨e, he⟩ := exists_entry? hid
  obtain ⟨w, hw, hg⟩ := acquire_waits he k true
  have hperform : d.perform k (.refresh id true) = ((d.acquire k id true).1, .waiting w []) :=
    Prod.ext rfl hw
  refine List.mem_map.2 ⟨⟨k, w, .enqueue server.id answer.jobs :: next⟩, ?_, ?_⟩
  · rw [hafter, run, hperform]
    exact List.mem_append_right _ (.head _)
  · rw [Task.asGranted, hg]

/-! The course of the jobs through runs -/

/-- The jobs that leave the queue in an act. -/
def left (c : Client) (a : Act) : List Queued :=
  let jobs := c.queue.pending ++ (c.entered a).flatMap Batch.queued
  jobs.take (jobs.length - (c.after a).queue.pending.length)

theorem Passage.left_eq {P : Sign → Prop} {c : Client} {a : Act} {outs : List Queued}
    (h : Passage P c a outs) : c.left a = outs := by
  rw [left, entered, ← queued_eq, ← h.queue]
  simp

theorem passage_left {c : Client} (h : c.Sound) {a : Act} (p : c.Permits a) :
    Passage (fun _ => True) c a (c.left a) := by
  have admits : c.Admits a fun _ => True :=
    ⟨fun _ _ => trivial, fun _ _ _ _ _ _ _ => trivial, fun _ => trivial, fun _ _ _ _ => trivial,
      fun _ _ => trivial, fun _ _ => trivial⟩
  obtain ⟨outs, ho⟩ := passage_after h p admits
  exact ho.left_eq.symm ▸ ho

/-- The course of all jobs through some acts. -/
structure Conveyance (c : Client) (acts : List Act) : Prop where
  /-- Every batch that was answered has entered the queue once, or is on hand. -/
  batches : (c.along answered acts).Perm (c.along entered acts ++ (c.afterAll acts).onHand)
  /-- Batches enter when they are due. -/
  due : ∀ past a rest, acts = past ++ a :: rest →
    (c.afterAll past).entered a = (c.afterAll past).due a
  refetch : ∀ past a rest t, acts = past ++ a :: rest → (c.afterAll past).Refetches a t →
    ((c.afterAll past).after a).Stands t
  /-- A batch that is on hand waits for the end of a forced refresh. -/
  onHand : ∀ t ∈ (c.afterAll acts).tasks, ∀ serverId jobs, .enqueue serverId jobs ∈ t.next →
    ∃ id more, t.next = .enqueue serverId jobs :: more ∧
      (t.wait.asGranted = .granted id true ∨ ∃ server r, t.wait = .resources id server r)
  /-- The jobs have left the queue in the order in which they entered it, or wait in this order. -/
  queue : (c.along entered acts).flatMap Batch.queued =
    c.along left acts ++ (c.afterAll acts).queue.pending
  /-- Every job that leaves the queue gets its verdict. -/
  verdicts : ∀ past a rest, acts = past ++ a :: rest →
    ((c.afterAll past).shown a).filter (·.2.judges) =
      ((c.afterAll past).after a).verdicts ((c.afterAll past).left a)
  /-- The refreshes that verdicts ask for have begun once each, or are scheduled. -/
  refreshes : (c.along (fun d a => (d.after a).refreshes (d.left a)) acts).Perm
    (c.along (fun _ a => a.begun?.toList) acts ++ (c.afterAll acts).scheduled)

theorem queue_afterAll {c : Client} (h : Reachable c) {acts : List Act} (allows : c.Allows acts) :
    c.queue.pending ++ (c.along entered acts).flatMap Batch.queued =
      c.along left acts ++ (c.afterAll acts).queue.pending := by
  induction acts generalizing c with
  | nil => exact List.append_nil _
  | cons a acts ih =>
    have hfirst := (passage_left h.sound allows.1).queue
    have hrest := ih (h.act allows.1) allows.2
    rw [queued_eq] at hfirst
    calc
      c.queue.pending ++ (c.entered a ++ (c.after a).along entered acts).flatMap Batch.queued =
          (c.queue.pending ++ (c.entered a).flatMap Batch.queued) ++
            ((c.after a).along entered acts).flatMap Batch.queued := by
        rw [List.flatMap_append, List.append_assoc]
      _ = c.left a ++ ((c.after a).queue.pending ++
            ((c.after a).along entered acts).flatMap Batch.queued) := by
        rw [← List.append_assoc, hfirst]
        rfl
      _ = (c.left a ++ (c.after a).along left acts) ++
            ((c.after a).afterAll acts).queue.pending := by
        rw [hrest, List.append_assoc]

/-- No job is lost, doubled or put out of order on its way from the answer to a poll, through the
    refresh that the answer asks for, into the queue and out of it; and each one that leaves the
    queue gets one verdict. -/
theorem jobs_conveyed {settings : Settings} {allowed : Server → Except Error (List String)}
    {protection : Fetch.Protection} {now : Moment} {c : Client}
    (hc : Client.new settings allowed protection now = .ok c) {acts : List Act}
    (allows : c.Allows acts) : Conveyance c acts := by
  have h := Reachable.new hc
  obtain ⟨rfl, -, -⟩ := new_eq hc
  constructor
  · exact perm_along (x := onHand) (fun _ _ hr hp => onHand_after hr hp) h allows
  · intro xs a ys heq
    obtain ⟨hr, hp, -⟩ := h.past allows heq
    exact entered_eq_due hr hp
  · intro xs a ys t heq ha
    obtain ⟨hr, hp, -⟩ := h.past allows heq
    exact ha.stands hr.sound hp
  · exact fun t ht serverId jobs hm => waiting_of_enqueue (h.afterAll allows) ht hm
  · exact queue_afterAll h allows
  · intro xs a ys heq
    obtain ⟨hr, hp, -⟩ := h.past allows heq
    exact (passage_left hr.sound hp).signs.1
  · exact perm_along (x := scheduled) (fun _ _ hr hp => (passage_left hr.sound hp).scheduled)
      h allows

/-- A job is answered, enters the queue before this runs, and leaves it when it does. -/
theorem first_job_conveyed :
    Conveyance (blank .standard) (toJob ++ [.startAll]) ∧
      ((blank .standard).along entered (toJob ++ [.startAll])).length = 1 ∧
      ((blank .standard).along left (toJob ++ [.startAll])).map (·.parameters.id) = ["j"] := by
  have hnew : Client.new .standard (fun _ => .ok []) .any ⟨0, ⟨0, 0, 0⟩⟩ =
      .ok (blank .standard) := rfl
  have allows : (blank .standard).Allows (toJob ++ [.startAll]) :=
    (allows_append ..).2 ⟨allows_toJob, trivial, trivial⟩
  exact ⟨jobs_conveyed hnew allows, by decide +kernel, by decide +kernel⟩

end Client
end Harvest.Sync
