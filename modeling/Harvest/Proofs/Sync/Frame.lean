import Harvest.Proofs.Sync.Timers
/-!
What stays as it is while a task goes on: the time, the settings, the registry, and what is known of
every server. Only a task that is told the resources of a server changes the latter, as the first
thing that it does.
-/

namespace Harvest.Sync.Client

/-- What is known of an entry: the definition of its server and its resources. -/
def known? (c : Client) (id : EntryId) : Option (Server × List Resource) :=
  (c.entry? id).map fun e => (e.server, e.resources)

/-- What the refreshes of an entry have left, and who has the right to the next one. -/
def store? (c : Client) (id : EntryId) : Option (List Resource × Option Moment × Lock) :=
  (c.entry? id).map fun e => (e.resources, e.lastFetch, e.refresh)

/-- What is known of an entry, and since when. -/
def record? (c : Client) (id : EntryId) : Option (Server × List Resource × Option Moment) :=
  (c.entry? id).map fun e => (e.server, e.resources, e.lastFetch)

structure Frame (c d : Client) : Prop where
  settings : d.settings = c.settings
  now : d.now = c.now
  registry : d.registry = c.registry
  record : ∀ id, d.record? id = c.record? id

theorem Frame.refl (c : Client) : Frame c c := ⟨rfl, rfl, rfl, fun _ => rfl⟩

theorem Frame.trans {c d e : Client} (h : Frame c d) (g : Frame d e) : Frame c e :=
  ⟨g.settings.trans h.settings, g.now.trans h.now, g.registry.trans h.registry,
    fun id => (g.record id).trans (h.record id)⟩

theorem Frame.known {c d : Client} (h : Frame c d) (id : EntryId) : d.known? id = c.known? id := by
  have hr := congrArg (Option.map fun r => (r.1, r.2.1)) (h.record id)
  rwa [record?, record?, Option.map_map, Option.map_map] at hr

theorem record?_modifyEntry (c : Client) (id j : EntryId) {f : Entry → Entry}
    (hf : ∀ e : Entry, (f e).server = e.server ∧ (f e).resources = e.resources ∧
      (f e).lastFetch = e.lastFetch) :
    (c.modifyEntry id f).record? j = c.record? j := by
  rw [record?, entry?_modifyEntry, record?, Option.map_map]
  congr 1
  funext e
  by_cases h : id = j <;> simp [h, hf]

section

variable {c d : Client}

theorem Frame.reveal (h : Frame c d) (s : Sign) : Frame c (d.reveal s) :=
  ⟨h.settings, h.now, h.registry, h.record⟩

theorem Frame.spawn (h : Frame c d) (next : List Next) : Frame c (d.spawn next) :=
  ⟨h.settings, h.now, h.registry, h.record⟩

theorem Frame.suspend (h : Frame c d) (k : TaskId) (w : Wait) (next : List Next) :
    Frame c (d.suspend k w next) :=
  ⟨h.settings, h.now, h.registry, h.record⟩

theorem Frame.setQueue (h : Frame c d) (q : JobQueue Queued) : Frame c { d with queue := q } :=
  ⟨h.settings, h.now, h.registry, h.record⟩

theorem Frame.modifyEntry (h : Frame c d) (id : EntryId) {f : Entry → Entry}
    (hf : ∀ e : Entry, (f e).server = e.server ∧ (f e).resources = e.resources ∧
      (f e).lastFetch = e.lastFetch) :
    Frame c (d.modifyEntry id f) :=
  ⟨h.settings, h.now, h.registry, fun j => (record?_modifyEntry d id j hf).trans (h.record j)⟩

theorem Frame.retime (h : Frame c d) (id : EntryId) (kind : Option Timer.Kind) :
    Frame c (d.retime id kind) := by
  refine ⟨h.settings, h.now, h.registry, fun j => ?_⟩
  refine (record?_modifyEntry d id j ?_).trans (h.record j)
  intro e
  match kind with
  | none => exact ⟨rfl, rfl, rfl⟩
  | some .poll => exact ⟨rfl, rfl, rfl⟩
  | some .resume => exact ⟨rfl, rfl, rfl⟩

theorem Frame.acquire (h : Frame c d) (k : TaskId) (id : EntryId) (forced : Bool) :
    Frame c (d.acquire k id forced).1 := by
  unfold Client.acquire
  split
  · exact h
  · split <;> exact h.modifyEntry id fun _ => ⟨rfl, rfl, rfl⟩

theorem Frame.grant (h : Frame c d) (k : TaskId) : Frame c (d.grant k) := by
  unfold Client.grant
  split
  · exact ⟨h.settings, h.now, h.registry, h.record⟩
  · exact h

theorem Frame.release (h : Frame c d) (id : EntryId) : Frame c (d.release id) := by
  unfold Client.release
  split
  · exact h
  · refine h.modifyEntry id ?_
    exact fun _ => ⟨rfl, rfl, rfl⟩
  · refine Frame.grant (h.modifyEntry id ?_) _
    exact fun _ => ⟨rfl, rfl, rfl⟩

theorem Frame.stopEntries (h : Frame c d) (ids : List EntryId) :
    Frame c (Client.stopEntries ids d) := by
  induction ids generalizing d with
  | nil => exact h
  | cons id ids ih =>
    rw [Client.stopEntries, stopEntry_eq]
    exact ih (h.retime id none)

theorem Frame.poll (h : Frame c d) (id : EntryId) : Frame c (d.poll id).1 := by
  unfold Client.poll
  split <;> exact h

theorem Frame.attempt (h : Frame c d) (x : Delivery) : Frame c (d.attempt x).1 := by
  unfold Client.attempt
  split
  · exact h
  · dsimp only
    split
    · exact h.reveal _
    · split
      · exact h.reveal _
      · split <;> exact h.reveal _

theorem Frame.submit (h : Frame c d) (result : JobResult) : Frame c (d.submit result).1 := by
  unfold Client.submit
  split
  · exact h.reveal _
  · exact h.attempt _

theorem Frame.execute (h : Frame c d) (job : Job) : Frame c (d.execute job).1 := by
  unfold Client.execute
  split
  · exact h.submit _
  · exact h.reveal _

theorem Frame.judge (h : Frame c d) (id : EntryId) (e : Entry) (p : Job.Parameters) :
    Frame c (d.judge id e p) := by
  unfold Client.judge
  split
  · exact (h.reveal _).spawn _
  · split
    · exact (h.reveal _).reveal _
    · split
      · exact h.reveal _
      · exact (h.reveal _).spawn _

theorem Frame.dispatch (h : Frame c d) (q : Queued) : Frame c (d.dispatch q) := by
  unfold Client.dispatch
  split
  · exact h.reveal _
  · split
    · exact h.reveal _
    · exact h.judge ..

theorem Frame.withQueue (h : Frame c d) (q : JobQueue Queued × Option Queued) :
    Frame c (d.withQueue q) := by
  unfold Client.withQueue
  dsimp only
  split
  · exact h.setQueue _
  · exact (h.setQueue _).dispatch _

theorem Frame.startQueue (h : Frame c d) : Frame c d.startQueue := by
  unfold Client.startQueue
  dsimp only
  split
  · exact h.withQueue _
  · exact (h.spawn _).withQueue _

theorem Frame.enqueue (h : Frame c d) (serverId : String) (jobs : List Job.Parameters) :
    Frame c (d.enqueue serverId jobs) := by
  induction jobs generalizing d with
  | nil => exact h
  | cons p rest ih => exact ih (h.withQueue _)

theorem Frame.pause (h : Frame c d) (id : EntryId) (next : List Next) :
    Frame c (d.pause id next).1 := by
  have hr := h.retime id (some .resume)
  rw [pause_eq]
  split
  · exact hr
  · split
    · exact hr
    · exact (hr.reveal _).spawn _

theorem Frame.countError (h : Frame c d) (id : EntryId) : Frame c (d.countError id) :=
  h.modifyEntry id fun _ => ⟨rfl, rfl, rfl⟩

theorem Frame.pollFailed (h : Frame c d) (id : EntryId) (server : Server) (fault : Error)
    (next : List Next) : Frame c (d.pollFailed id server fault next).1 := by
  rw [Client.pollFailed]
  split
  · exact ((h.countError id).reveal _).pause id next
  · exact (h.countError id).reveal _

theorem Frame.permitted (h : Frame c d) (id : EntryId) (server : Server)
    (answer : Except Error (List String)) (next : List Next) :
    Frame c (d.permitted id server answer next).1 := by
  unfold Client.permitted
  split
  · exact h.pollFailed ..
  · exact h.reveal _

theorem Frame.polled (h : Frame c d) (id : EntryId) (server : Server)
    (answer : Except Error Coordinator.Jobs) (next : List Next) :
    Frame c (d.polled id server answer next).1 := by
  unfold Client.polled
  split
  · exact h.pollFailed ..
  · dsimp only
    split
    · exact (h.reveal _).reveal _
    · exact h.reveal _

theorem Frame.delivered (h : Frame c d) (x : Delivery) (server : Server) (hash : String)
    (outcome : Except Error Coordinator.Submission) (next : List Next) :
    Frame c (d.delivered x server hash outcome next).1 := by
  unfold Client.delivered
  dsimp only
  split
  · exact h.reveal _
  · exact h.reveal _
  · exact h.reveal _
  · split
    · exact h.reveal _
    · exact ((h.reveal _).countError _).pause ..

theorem Frame.perform (h : Frame c d) (k : TaskId) (n : Next) : Frame c (d.perform k n).1 := by
  cases n with
  | start id =>
    have hf := (h.retime id (some .poll)).acquire k id false
    rw [Client.perform, beginStart_eq]
    dsimp only
    split <;> rename_i heq <;> rw [heq] at hf <;> exact hf
  | started id token =>
    rw [Client.perform]
    split
    · exact h
    · split
      · exact h.poll id
      · exact (h.spawn _).poll id
  | refresh id forced => exact h.acquire k id forced
  | poll id => exact h.poll id
  | enqueue serverId jobs => exact h.enqueue serverId jobs
  | submit result => exact h.submit result
  | attempt d => exact h.attempt d
  | execute job => exact h.execute job
  | beginTimer id token => exact h
  | timer id token ticker => exact h
  | beginPause id token delay name => exact h
  | beginDriver driver => exact h

end

theorem Frame.run {k : TaskId} {next : List Next} {c d : Client} (h : Frame c d) :
    Frame c (run k next d) := by
  induction next generalizing d with
  | nil => exact h
  | cons n rest ih =>
    have hp := h.perform k n
    rw [Client.run]
    generalize d.perform k n = a at hp
    obtain ⟨e, p⟩ := a
    cases p with
    | done => exact ih hp
    | waiting w more => exact hp.suspend ..

theorem Frame.follow {c d : Client} (h : Frame c d) (k : TaskId) (course : Course) :
    Frame c (d.follow k course) := by
  cases course with
  | goesOn next => exact h.run
  | waits w next => exact h.suspend ..
  | ends => exact h

/-- What a task does as soon as it is told something, unless it has the right to refresh. -/
theorem Frame.heed {c d : Client} (h : Frame c d) {t : Task} {s : Signal} {a : Client × Course}
    (heq : d.heed t s = some a) (granted : ∀ id forced, t.wait ≠ .granted id forced)
    (resources : ∀ id server r, t.wait ≠ .resources id server r) : Frame c a.1 := by
  cases heeds_of_heed heq with
  | granted => exact absurd rfl (granted _ _)
  | resources => exact absurd rfl (resources _ _ _)
  | permission => exact h.permitted ..
  | jobs => exact h.polled ..
  | submission => exact h.delivered ..
  | resume => exact h.reveal _
  | drive => exact h.withQueue _
  | turn | page | tick | tickCancelled | resumeCancelled => exact h

/-! The definitions of servers -/

def server? (c : Client) (id : EntryId) : Option Server := (c.entry? id).map (·.server)

theorem Frame.server {c d : Client} (h : Frame c d) (id : EntryId) :
    d.server? id = c.server? id := by
  have hr := congrArg (Option.map (·.1)) (h.record id)
  rwa [record?, record?, Option.map_map, Option.map_map] at hr

theorem server?_modifyEntry (c : Client) (id j : EntryId) {f : Entry → Entry}
    (hf : ∀ e : Entry, (f e).server = e.server) :
    (c.modifyEntry id f).server? j = c.server? j := by
  rw [server?, entry?_modifyEntry, server?, Option.map_map]
  congr 1
  funext e
  by_cases h : id = j <;> simp [h, hf]

theorem server?_fetched (c : Client) (id : EntryId) (server : Server)
    (result : Except Error Resource.Catalog) (j : EntryId) :
    (c.fetched id server result).server? j = c.server? j := by
  have hm : ∀ (f : Entry → Entry) (s : Sign), (∀ e : Entry, (f e).server = e.server) →
      (((c.modifyEntry id f).reveal s).release id).server? j = c.server? j := fun f s hf =>
    (((Frame.refl (c.modifyEntry id f)).reveal s).release id).server j |>.trans
      (server?_modifyEntry c id j hf)
  unfold fetched
  split
  · exact hm _ _ fun _ => rfl
  · exact hm _ _ fun _ => rfl

theorem server?_refresh (c : Client) (id : EntryId) (forced : Bool) (next : List Next)
    (j : EntryId) : (c.refresh id forced next).1.server? j = c.server? j := by
  unfold refresh
  split
  · rfl
  · split
    · exact (((Frame.refl c).reveal _).release id).server j
    · split
      · exact server?_fetched ..
      · rfl

theorem now_fetched (c : Client) (id : EntryId) (server : Server)
    (result : Except Error Resource.Catalog) : (c.fetched id server result).now = c.now := by
  have hm : ∀ (f : Entry → Entry) (s : Sign),
      (((c.modifyEntry id f).reveal s).release id).now = c.now := fun f s =>
    (((Frame.refl (c.modifyEntry id f)).reveal s).release id).now
  unfold fetched
  split
  · exact hm _ _
  · exact hm _ _

theorem now_refresh (c : Client) (id : EntryId) (forced : Bool) (next : List Next) :
    (c.refresh id forced next).1.now = c.now := by
  unfold refresh
  split
  · rfl
  · split
    · exact (((Frame.refl c).reveal _).release id).now
    · split
      · exact now_fetched ..
      · rfl

/-- No time passes when a task is told something. -/
theorem now_heed {c : Client} {t : Task} {s : Signal} {a : Client × Course}
    (heq : c.heed t s = some a) : a.1.now = c.now := by
  cases heeds_of_heed heq with
  | granted => exact now_refresh ..
  | resources => exact now_fetched ..
  | permission => exact ((Frame.refl c).permitted ..).now
  | jobs => exact ((Frame.refl c).polled ..).now
  | submission => exact ((Frame.refl c).delivered ..).now
  | drive => exact ((Frame.refl c).withQueue _).now
  | _ => rfl

/-- A task that is told something changes no definition. -/
theorem server?_heed {c : Client} {t : Task} {s : Signal} {a : Client × Course}
    (heq : c.heed t s = some a) (id : EntryId) : a.1.server? id = c.server? id := by
  by_cases hg : ∃ i forced, t.wait = .granted i forced
  · obtain ⟨i, forced, hg⟩ := hg
    cases heeds_of_heed heq with
    | granted => exact server?_refresh ..
    | _ => cases hg
  · by_cases hr : ∃ i server r, t.wait = .resources i server r
    · obtain ⟨i, server, r, hr⟩ := hr
      cases heeds_of_heed heq with
      | resources => exact server?_fetched ..
      | _ => cases hr
    · exact ((Frame.refl c).heed heq (fun i forced he => hg ⟨i, forced, he⟩)
        fun i server r he => hr ⟨i, server, r, he⟩).server id

end Harvest.Sync.Client
