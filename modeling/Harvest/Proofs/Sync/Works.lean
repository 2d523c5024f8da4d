import Harvest.Proofs.Sync.Dispatch
/-!
Work that has nothing to do with the right to refresh: everything that a task does but to ask for
this right, to use it and to give it back. It leaves the resources of every server and the locks as
they are, and all that it does to the tasks is to put new ones behind them.
-/

namespace Harvest.Sync

/-- New tasks with one thing to do each, numbered from `k` on. -/
def beginners (k : TaskId) : List Next → List Task
  | [] => []
  | n :: ns => ⟨k, .turn, [n]⟩ :: beginners (k + 1) ns

theorem beginners_append (k : TaskId) (ns ms : List Next) :
    beginners k (ns ++ ms) = beginners k ns ++ beginners (k + ns.length) ms := by
  induction ns generalizing k with
  | nil => rfl
  | cons n ns ih =>
    have hk : k + 1 + ns.length = k + (n :: ns).length := Nat.add_right_comm k 1 ns.length
    rw [List.cons_append, beginners, ih, hk]
    rfl

theorem wait_of_mem_beginners {k : TaskId} {ns : List Next} {t : Task} (h : t ∈ beginners k ns) :
    t.wait = .turn := by
  induction ns generalizing k with
  | nil => cases h
  | cons n ns ih =>
    rcases List.mem_cons.1 h with rfl | h
    · rfl
    · exact ih h

/-- Whether something is the beginning of a timer, of a pause or of a driver of the queue. -/
def Next.Opens : Next → Prop
  | .beginTimer .. => True
  | .beginPause .. => True
  | .beginDriver _ => True
  | _ => False

namespace Client

theorem store?_modifyEntry (c : Client) (id j : EntryId) {f : Entry → Entry}
    (hf : ∀ e : Entry, (f e).resources = e.resources ∧ (f e).lastFetch = e.lastFetch ∧
      (f e).refresh = e.refresh) : (c.modifyEntry id f).store? j = c.store? j := by
  rw [store?, entry?_modifyEntry, store?, Option.map_map]
  congr 1
  funext e
  obtain ⟨hr, hl, hk⟩ := hf e
  by_cases h : id = j
  · simp [h, hr, hl, hk]
  · simp [h]

structure Works (c d : Client) (ns : List Next) : Prop where
  store : ∀ id, d.store? id = c.store? id
  tasks : d.tasks = c.tasks ++ beginners c.taskCount ns
  count : d.taskCount = c.taskCount + ns.length

theorem Works.refl (c : Client) : Works c c [] := ⟨fun _ => rfl, (List.append_nil _).symm, rfl⟩

section

variable {c d : Client} {ns : List Next}

theorem Works.congr (h : Works c d ns) {e : Client} (store : ∀ id, e.store? id = d.store? id)
    (tasks : e.tasks = d.tasks) (count : e.taskCount = d.taskCount) : Works c e ns :=
  ⟨fun id => (store id).trans (h.store id), tasks.trans h.tasks, count.trans h.count⟩

theorem Works.no_more (h : Works c d ns) {P : Next → Prop} :
    ∃ ms, Works c d (ns ++ ms) ∧ ∀ n ∈ ms, P n :=
  ⟨[], by rwa [List.append_nil], by simp⟩

theorem Works.reveal (h : Works c d ns) (s : Sign) : Works c (d.reveal s) ns :=
  h.congr (fun _ => rfl) rfl rfl

theorem Works.modifyEntry (h : Works c d ns) (id : EntryId) {f : Entry → Entry}
    (hf : ∀ e : Entry, (f e).resources = e.resources ∧ (f e).lastFetch = e.lastFetch ∧
      (f e).refresh = e.refresh) : Works c (d.modifyEntry id f) ns :=
  h.congr (fun j => store?_modifyEntry d id j hf) rfl rfl

theorem Works.countError (h : Works c d ns) (id : EntryId) : Works c (d.countError id) ns :=
  h.modifyEntry id fun _ => ⟨rfl, rfl, rfl⟩

theorem Works.retime (h : Works c d ns) (id : EntryId) (kind : Option Timer.Kind) :
    Works c (d.retime id kind) ns := by
  refine h.congr (fun j => store?_modifyEntry d id j fun e => ?_) rfl rfl
  match kind with
  | none => exact ⟨rfl, rfl, rfl⟩
  | some .poll => exact ⟨rfl, rfl, rfl⟩
  | some .resume => exact ⟨rfl, rfl, rfl⟩

theorem Works.stopEntries (h : Works c d ns) (ids : List EntryId) :
    Works c (Client.stopEntries ids d) ns := by
  induction ids generalizing d with
  | nil => exact h
  | cons id ids ih =>
    rw [Client.stopEntries, stopEntry_eq]
    exact ih (h.retime id none)

theorem Works.spawn (h : Works c d ns) (n : Next) : Works c (d.spawn [n]) (ns ++ [n]) := by
  have htasks : (d.spawn [n]).tasks = d.tasks ++ [⟨d.taskCount, .turn, [n]⟩] := rfl
  have hcount : (d.spawn [n]).taskCount = d.taskCount + 1 := rfl
  refine ⟨h.store, ?_, ?_⟩
  · rw [htasks, h.tasks, h.count, beginners_append, List.append_assoc]
    rfl
  · rw [hcount, h.count, List.length_append]
    rfl

theorem Works.attempt (h : Works c d ns) (x : Delivery) : Works c (d.attempt x).1 ns := by
  unfold Client.attempt
  split
  · exact h
  · dsimp only
    split
    · exact h.reveal _
    · split
      · exact h.reveal _
      · split <;> exact h.reveal _

theorem Works.submit (h : Works c d ns) (result : JobResult) : Works c (d.submit result).1 ns := by
  unfold Client.submit
  split
  · exact h.reveal _
  · exact h.attempt _

theorem Works.execute (h : Works c d ns) (job : Job) : Works c (d.execute job).1 ns := by
  unfold Client.execute
  split
  · exact h.submit _
  · exact h.reveal _

theorem Works.dispatch (h : Works c d ns) (q : Queued) :
    Works c (d.dispatch q)
      (ns ++ (d.verdict q).refresh?.toList.map fun id => .refresh id false) := by
  have hr : Works c (d.revealAll ((d.verdict q).signs q)) ns := h.congr (fun _ => rfl) rfl rfl
  rw [dispatch_eq]
  cases (d.verdict q).refresh? with
  | none => simpa [schedule] using hr
  | some id => exact hr.spawn _

theorem Works.withQueue (h : Works c d ns) (r : JobQueue Queued × Option Queued) :
    ∃ ids : List EntryId, Works c (d.withQueue r) (ns ++ ids.map fun id => .refresh id false) := by
  have hq : Works c { d with queue := r.1 } ns := h.congr (fun _ => rfl) rfl rfl
  unfold Client.withQueue
  dsimp only
  split
  · exact ⟨[], by simpa using hq⟩
  · exact ⟨_, hq.dispatch _⟩

theorem Works.enqueue (h : Works c d ns) (serverId : String) (jobs : List Job.Parameters) :
    ∃ ids : List EntryId,
      Works c (d.enqueue serverId jobs) (ns ++ ids.map fun id => .refresh id false) := by
  induction jobs generalizing d ns with
  | nil =>
    refine ⟨[], ?_⟩
    rw [List.map_nil, List.append_nil]
    exact h
  | cons p rest ih =>
    obtain ⟨ids, hw⟩ := h.withQueue (d.queue.add d.now.clock ⟨serverId, p⟩)
    obtain ⟨more, hm⟩ := ih hw
    refine ⟨ids ++ more, ?_⟩
    rw [List.map_append, ← List.append_assoc]
    exact hm

theorem Works.pause (h : Works c d ns) (id : EntryId) (next : List Next) :
    ∃ ms, Works c (d.pause id next).1 (ns ++ ms) ∧ ∀ n ∈ ms, n.Opens := by
  have hr := h.retime id (some .resume)
  rw [pause_eq]
  split
  · exact hr.no_more
  · split
    · exact hr.no_more
    · refine ⟨_, (hr.reveal _).spawn _, fun n hn => ?_⟩
      obtain rfl := List.mem_singleton.1 hn
      trivial

theorem Works.pollFailed (h : Works c d ns) (id : EntryId) (server : Server) (fault : Error)
    (next : List Next) :
    ∃ ms, Works c (d.pollFailed id server fault next).1 (ns ++ ms) ∧ ∀ n ∈ ms, n.Opens := by
  have hl := fun s => (h.countError id).reveal s
  rw [Client.pollFailed]
  split
  · exact (hl _).pause id next
  · exact (hl _).no_more

theorem Works.permitted (h : Works c d ns) (id : EntryId) (server : Server)
    (answer : Except Error (List String)) (next : List Next) :
    ∃ ms, Works c (d.permitted id server answer next).1 (ns ++ ms) ∧ ∀ n ∈ ms, n.Opens := by
  unfold Client.permitted
  split
  · exact h.pollFailed ..
  · exact (h.reveal _).no_more

theorem Works.polled (h : Works c d ns) (id : EntryId) (server : Server)
    (answer : Except Error Coordinator.Jobs) (next : List Next) :
    ∃ ms, Works c (d.polled id server answer next).1 (ns ++ ms) ∧ ∀ n ∈ ms, n.Opens := by
  unfold Client.polled
  split
  · exact h.pollFailed ..
  · dsimp only
    split
    · exact ((h.reveal _).reveal _).no_more
    · exact (h.reveal _).no_more

theorem Works.delivered (h : Works c d ns) (x : Delivery) (server : Server) (hash : String)
    (outcome : Except Error Coordinator.Submission) (next : List Next) :
    ∃ ms, Works c (d.delivered x server hash outcome next).1 (ns ++ ms) ∧
      ∀ n ∈ ms, n.Opens := by
  unfold Client.delivered
  dsimp only
  split
  · exact (h.reveal _).no_more
  · exact (h.reveal _).no_more
  · exact (h.reveal _).no_more
  · split
    · exact (h.reveal _).no_more
    · exact ((h.reveal _).countError _).pause ..

theorem Works.startQueue (h : Works c d ns) :
    ∃ ms, Works c d.startQueue (ns ++ ms) ∧
      ∀ n ∈ ms, n.Opens ∨ ∃ id, n = .refresh id false := by
  have refreshes : ∀ ids : List EntryId,
      ∀ n ∈ ids.map fun id => Next.refresh id false, ∃ id, n = .refresh id false := by
    intro ids n hn
    obtain ⟨id, -, rfl⟩ := List.mem_map.1 hn
    exact ⟨id, rfl⟩
  unfold Client.startQueue
  dsimp only
  split
  · obtain ⟨ids, hw⟩ := h.withQueue (d.queue.start d.now.clock)
    exact ⟨_, hw, fun n hn => .inr (refreshes ids n hn)⟩
  · obtain ⟨ids, hw⟩ := (h.spawn (.beginDriver d.queue.drivers)).withQueue
      (d.queue.start d.now.clock)
    rw [List.append_assoc] at hw
    refine ⟨_, hw, fun n hn => ?_⟩
    rcases List.mem_append.1 hn with hn | hn
    · obtain rfl := List.mem_singleton.1 hn
      exact .inl trivial
    · exact .inr (refreshes ids n hn)

/-- What a task does, but for asking for the right to refresh. -/
theorem works_perform (c : Client) (k : TaskId) {n : Next} (start : ∀ id, n ≠ .start id)
    (refresh : ∀ id forced, n ≠ .refresh id forced) : ∃ ns, Works c (c.perform k n).1 ns := by
  have h : Works c c [] := .refl c
  cases n with
  | start id => exact absurd rfl (start id)
  | refresh id forced => exact absurd rfl (refresh id forced)
  | started id token =>
    rw [perform]
    split
    · exact ⟨_, h⟩
    · split <;> rw [poll_fst]
      · exact ⟨_, h⟩
      · exact ⟨_, h.spawn _⟩
  | poll id =>
    rw [perform, poll_fst]
    exact ⟨_, h⟩
  | enqueue serverId jobs =>
    obtain ⟨ids, hw⟩ := h.enqueue serverId jobs
    exact ⟨_, hw⟩
  | submit result => exact ⟨_, h.submit result⟩
  | attempt x => exact ⟨_, h.attempt x⟩
  | execute job => exact ⟨_, h.execute job⟩
  | beginTimer | timer | beginPause | beginDriver => exact ⟨_, h⟩

/-- What a task does as soon as it is told something, unless it has the right to refresh. -/
theorem works_heed {t : Task} {s : Signal} {a : Client × Course} (heq : c.heed t s = some a)
    (granted : ∀ id forced, t.wait ≠ .granted id forced)
    (resources : ∀ id server r, t.wait ≠ .resources id server r) : ∃ ns, Works c a.1 ns := by
  have h : Works c c [] := .refl c
  cases heeds_of_heed heq with
  | granted => exact absurd rfl (granted _ _)
  | resources => exact absurd rfl (resources _ _ _)
  | permission =>
    obtain ⟨ms, hw, -⟩ := h.permitted _ _ _ _
    exact ⟨_, hw⟩
  | jobs =>
    obtain ⟨ms, hw, -⟩ := h.polled _ _ _ _
    exact ⟨_, hw⟩
  | submission =>
    obtain ⟨ms, hw, -⟩ := h.delivered _ _ _ _ _
    exact ⟨_, hw⟩
  | resume => exact ⟨_, h.reveal _⟩
  | drive =>
    obtain ⟨ids, hw⟩ := h.withQueue (c.queue.drive _ c.now.clock)
    exact ⟨_, hw⟩
  | turn | page | tick | tickCancelled | resumeCancelled => exact ⟨_, h⟩

end

end Client
end Harvest.Sync
