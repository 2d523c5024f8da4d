import Harvest.Proofs.Sync.Tasks
/-!
Quiet changes: those that have nothing to do with starting, stopping and pausing. They leave the
account of every entry as it is, which is its tokens, its status and its errors, and add at most
chores, which are tasks that carry no token.
-/

namespace Harvest.Sync

/-! Tokens that tasks carry, and entries that they are about -/

/-- What a token is for. -/
inductive Timer.Kind
  | poll
  | resume
  deriving DecidableEq, Repr

/-- A token in the hands of a task. -/
structure Timer where
  kind : Timer.Kind
  entry : EntryId
  token : Token
  deriving DecidableEq, Repr

def Wait.timer? : Wait → Option Timer
  | .tick id token _ => some ⟨.poll, id, token⟩
  | .resume id token _ _ => some ⟨.resume, id, token⟩
  | _ => none

def Next.timer? : Next → Option Timer
  | .started id token => some ⟨.poll, id, token⟩
  | .beginTimer id token => some ⟨.poll, id, token⟩
  | .timer id token _ => some ⟨.poll, id, token⟩
  | .beginPause id token _ _ => some ⟨.resume, id, token⟩
  | _ => none

def Wait.entry? : Wait → Option EntryId
  | .lock id _ => some id
  | .granted id _ => some id
  | .resources id _ _ => some id
  | .permission id _ => some id
  | .jobs id _ _ => some id
  | .submission d _ _ _ => some d.entry
  | .tick id _ _ => some id
  | .resume id _ _ _ => some id
  | _ => none

def Next.entry? : Next → Option EntryId
  | .start id => some id
  | .started id _ => some id
  | .refresh id _ => some id
  | .poll id => some id
  | .attempt d => some d.entry
  | .beginTimer id _ => some id
  | .timer id _ _ => some id
  | .beginPause id _ _ _ => some id
  | _ => none

/-- Whether a task has a result submitted by something that it does. -/
def Next.delivers : Next → Bool
  | .submit _ => true
  | .attempt _ => true
  | .execute _ => true
  | _ => false

theorem Next.entry?_of_timer? {n : Next} {m : Timer} (h : n.timer? = some m) :
    n.entry? = some m.entry := by
  cases n <;> cases h <;> rfl

def Task.timers (t : Task) : List Timer := t.wait.timer?.toList ++ t.next.filterMap Next.timer?

def Task.entries (t : Task) : List EntryId := t.wait.entry?.toList ++ t.next.filterMap Next.entry?

/-- The tokens that a task carries to a wait. -/
def Progress.timers : Progress → List Timer
  | .done => []
  | .waiting w next => w.timer?.toList ++ next.filterMap Next.timer?

theorem Task.timers_asGranted (t : Task) : t.asGranted.timers = t.timers := by
  obtain ⟨k, w, next⟩ := t
  cases w <;> rfl

theorem Task.entries_asGranted (t : Task) : t.asGranted.entries = t.entries := by
  obtain ⟨k, w, next⟩ := t
  cases w <;> rfl

/-- What starting, stopping, pausing and failing change of an entry. -/
structure Account where
  pollToken : Option Token
  resumeToken : Option Token
  status : Status
  errors : Nat
  deriving DecidableEq, Repr

def Entry.account (e : Entry) : Account := ⟨e.pollToken, e.resumeToken, e.status, e.errors⟩

namespace Client

def account? (c : Client) (id : EntryId) : Option Account := (c.entry? id).map Entry.account

def timers (c : Client) : List Timer := c.tasks.flatMap Task.timers

/-- The entries that the tasks are about. -/
def mentions (c : Client) : List EntryId := c.tasks.flatMap Task.entries

theorem flatMap_asGranted {α : Type} {f : Task → List α} (hf : ∀ t : Task, f t.asGranted = f t)
    (ts : List Task) : (ts.map Task.asGranted).flatMap f = ts.flatMap f := by
  simp only [List.flatMap_map, hf]

theorem Adds.timers_perm {c d : Client} {xs : List Task} (h : Adds c d xs) :
    d.timers.Perm (c.timers ++ xs.flatMap Task.timers) := by
  have := h.tasks.flatMap_right Task.timers
  simpa only [List.flatMap_append, flatMap_asGranted Task.timers_asGranted, timers] using this

theorem Adds.mentions_perm {c d : Client} {xs : List Task} (h : Adds c d xs) :
    d.mentions.Perm (c.mentions ++ xs.flatMap Task.entries) := by
  have := h.tasks.flatMap_right Task.entries
  simpa only [List.flatMap_append, flatMap_asGranted Task.entries_asGranted, mentions] using this

@[simp] theorem timers_suspend (c : Client) (k : TaskId) (w : Wait) (next : List Next) :
    (c.suspend k w next).timers = c.timers ++ Task.timers ⟨k, w, next⟩ := by
  simp [timers, suspend]

@[simp] theorem mentions_suspend (c : Client) (k : TaskId) (w : Wait) (next : List Next) :
    (c.suspend k w next).mentions = c.mentions ++ Task.entries ⟨k, w, next⟩ := by
  simp [mentions, suspend]

theorem entry?_modifyEntry (c : Client) (id j : EntryId) (f : Entry → Entry) :
    Client.entry? (c.modifyEntry id f) j = (c.entry? j).map fun e => if id = j then f e else e := by
  simp only [modifyEntry, entry?, List.getElem?_modify]
  rfl

theorem account?_modifyEntry (c : Client) (id j : EntryId) {f : Entry → Entry}
    (hf : ∀ e : Entry, (f e).account = e.account) :
    (c.modifyEntry id f).account? j = c.account? j := by
  rw [account?, entry?_modifyEntry, account?, Option.map_map]
  congr 1
  funext e
  by_cases h : id = j <;> simp [h, hf]

/-- A task that a quiet change may add: a refresh, or a driver of the queue. -/
inductive Chore (c : Client) : Task → Prop
  | refresh {k : TaskId} {id : EntryId} : id < c.entries.length → id ∈ c.registry.map (·.2) →
      c.Chore ⟨k, .turn, [.refresh id false]⟩
  | driver {k : TaskId} {driver : Nat} : c.Chore ⟨k, .turn, [.beginDriver driver]⟩

theorem Chore.timers {c : Client} {t : Task} (h : c.Chore t) : t.timers = [] := by
  cases h <;> rfl

theorem Chore.known {c : Client} {t : Task} (h : c.Chore t) {id : EntryId}
    (hid : id ∈ t.entries) : id < c.entries.length := by
  cases h with
  | refresh h =>
    obtain rfl := List.mem_singleton.1 hid
    exact h
  | driver => cases hid

theorem Chore.listed {c : Client} {t : Task} (h : c.Chore t) {id : EntryId}
    (hid : id ∈ t.entries) : id ∈ c.registry.map (·.2) := by
  cases h with
  | refresh _ h =>
    obtain rfl := List.mem_singleton.1 hid
    exact h
  | driver => cases hid

theorem Chore.of_asGranted {c : Client} {t : Task} (h : c.Chore t.asGranted) : c.Chore t := by
  obtain ⟨k, w, next⟩ := t
  cases w <;> first | exact h | (simp only [Task.asGranted, Wait.asGranted] at h; cases h)

theorem Chore.congr {c d : Client} {t : Task} (h : c.Chore t)
    (size : c.entries.length = d.entries.length) (registry : c.registry = d.registry) :
    d.Chore t := by
  cases h with
  | refresh h hr => exact .refresh (size ▸ h) (registry ▸ hr)
  | driver => exact .driver

/-- A change that has nothing to do with starting, stopping and pausing. -/
structure Quiet (c d : Client) : Prop where
  account : ∀ id, d.account? id = c.account? id
  size : d.entries.length = c.entries.length
  registry : d.registry = c.registry
  issued : d.issued = c.issued
  cancelled : d.cancelled = c.cancelled
  settings : d.settings = c.settings
  adds : ∃ xs : List Task, Adds c d xs ∧ ∀ t ∈ xs, c.Chore t

theorem Quiet.refl (c : Client) : Quiet c c :=
  ⟨fun _ => rfl, rfl, rfl, rfl, rfl, rfl, [], .refl c, by simp⟩

theorem Quiet.trans {c d e : Client} (h : Quiet c d) (g : Quiet d e) : Quiet c e := by
  obtain ⟨xs, hx, hxs⟩ := h.adds
  obtain ⟨ys, hy, hys⟩ := g.adds
  refine ⟨fun id => (g.account id).trans (h.account id), g.size.trans h.size,
    g.registry.trans h.registry, g.issued.trans h.issued, g.cancelled.trans h.cancelled,
    g.settings.trans h.settings, xs ++ ys, hx.trans hy, ?_⟩
  intro t ht
  rcases List.mem_append.1 ht with ht | ht
  · exact hxs t ht
  · exact (hys t ht).congr h.size h.registry

theorem Quiet.numbered {c d : Client} (h : Quiet c d) (n : c.Numbered) : d.Numbered := by
  obtain ⟨xs, hx, -⟩ := h.adds
  exact hx.numbered n

theorem Quiet.timers_perm {c d : Client} (h : Quiet c d) : d.timers.Perm c.timers := by
  obtain ⟨xs, hx, hxs⟩ := h.adds
  have hnone : xs.flatMap Task.timers = [] := by
    rw [List.flatMap_eq_nil_iff]
    exact fun t ht => (hxs t ht).timers
  simpa [hnone] using hx.timers_perm

theorem Quiet.mem_tasks {c d : Client} (h : Quiet c d) {t : Task} (ht : t ∈ d.tasks) :
    (∃ u ∈ c.tasks, t.asGranted = u.asGranted) ∨ c.Chore t := by
  obtain ⟨xs, hx, hxs⟩ := h.adds
  have hm : t.asGranted ∈ c.tasks.map Task.asGranted ++ xs :=
    hx.tasks.mem_iff.1 (List.mem_map_of_mem ht)
  rcases List.mem_append.1 hm with hm | hm
  · obtain ⟨u, hu, heq⟩ := List.mem_map.1 hm
    exact .inl ⟨u, hu, heq.symm⟩
  · exact .inr ((hxs _ hm).of_asGranted)

theorem Quiet.suspend {c d : Client} (h : Quiet c d) (k : TaskId) (w : Wait)
    (next : List Next) : Quiet (c.suspend k w next) (d.suspend k w next) := by
  obtain ⟨xs, hx, hxs⟩ := h.adds
  exact ⟨h.account, h.size, h.registry, h.issued, h.cancelled, h.settings, xs,
    hx.suspend k w next, fun t ht => (hxs t ht).congr rfl rfl⟩

/-! The quiet parts of acts -/

section

variable {c d : Client}

theorem Quiet.reveal (h : Quiet c d) (s : Sign) : Quiet c (d.reveal s) := by
  obtain ⟨xs, hx, hxs⟩ := h.adds
  exact ⟨h.account, h.size, h.registry, h.issued, h.cancelled, h.settings, xs, hx.reveal s, hxs⟩

theorem Quiet.modifyEntry (h : Quiet c d) (id : EntryId) {f : Entry → Entry}
    (hf : ∀ e : Entry, (f e).account = e.account) : Quiet c (d.modifyEntry id f) := by
  obtain ⟨xs, hx, hxs⟩ := h.adds
  exact ⟨fun j => (account?_modifyEntry d id j hf).trans (h.account j),
    (List.length_modify ..).trans h.size, h.registry, h.issued, h.cancelled, h.settings, xs,
    hx.modifyEntry id f, hxs⟩

theorem Quiet.spawn (h : Quiet c d) {n : Next}
    (chore : c.Chore ⟨d.taskCount, .turn, [n]⟩) : Quiet c (d.spawn [n]) := by
  refine h.trans ⟨fun _ => rfl, rfl, rfl, rfl, rfl, rfl, _, .spawn d [n], ?_⟩
  intro t ht
  obtain rfl := List.mem_singleton.1 ht
  exact chore.congr h.size.symm h.registry.symm

theorem Quiet.acquire (h : Quiet c d) (k : TaskId) (id : EntryId) (forced : Bool) :
    Quiet c (d.acquire k id forced).1 := by
  unfold Client.acquire
  split
  · exact h
  · split <;> exact h.modifyEntry id fun _ => rfl

theorem Quiet.poll (h : Quiet c d) (id : EntryId) : Quiet c (d.poll id).1 := by
  unfold Client.poll
  split <;> exact h

theorem Quiet.attempt (h : Quiet c d) (x : Delivery) : Quiet c (d.attempt x).1 := by
  unfold Client.attempt
  split
  · exact h
  · dsimp only
    split
    · exact h.reveal _
    · split
      · exact h.reveal _
      · split <;> exact h.reveal _

theorem Quiet.submit (h : Quiet c d) (result : JobResult) : Quiet c (d.submit result).1 := by
  unfold Client.submit
  split
  · exact h.reveal _
  · exact h.attempt _

theorem Quiet.execute (h : Quiet c d) (job : Job) : Quiet c (d.execute job).1 := by
  unfold Client.execute
  split
  · exact h.submit _
  · exact h.reveal _

theorem Quiet.setQueue (h : Quiet c d) (q : JobQueue Queued) :
    Quiet c { d with queue := q } := by
  obtain ⟨xs, hx, hxs⟩ := h.adds
  exact ⟨h.account, h.size, h.registry, h.issued, h.cancelled, h.settings, xs, hx.congr rfl rfl,
    hxs⟩

end

section

variable {c d : Client} (n : c.Numbered)
include n

theorem Quiet.grant (h : Quiet c d) (k : TaskId) : Quiet c (d.grant k) := by
  have hd : Adds d (d.grant k) [] := (Adds.refl d).grant (h.numbered n) k
  refine h.trans ⟨?_, ?_, ?_, ?_, ?_, ?_, [], hd, by simp⟩ <;> unfold Client.grant <;> split <;>
    first | rfl | exact fun _ => rfl

theorem Quiet.release (h : Quiet c d) (id : EntryId) : Quiet c (d.release id) := by
  unfold Client.release
  split
  · exact h
  · exact h.modifyEntry id fun _ => rfl
  · refine (h.modifyEntry id ?_).grant n _
    exact fun _ => rfl

theorem Quiet.fetched (h : Quiet c d) (id : EntryId) (server : Server)
    (result : Except Error Resource.Catalog) : Quiet c (d.fetched id server result) := by
  unfold Client.fetched
  split
  · refine ((h.modifyEntry id ?_).reveal _).release n id
    exact fun _ => rfl
  · refine ((h.modifyEntry id ?_).reveal _).release n id
    exact fun _ => rfl

theorem Quiet.refresh (h : Quiet c d) (id : EntryId) (forced : Bool) (next : List Next) :
    Quiet c (d.refresh id forced next).1 := by
  unfold Client.refresh
  split
  · exact h
  · split
    · exact (h.reveal _).release n id
    · split
      · dsimp only
        exact h.fetched n ..
      · exact h.reveal _

end

/-- The entries of registered servers exist. -/
def Registered (c : Client) : Prop := ∀ r ∈ c.registry, r.2 < c.entries.length

theorem mem_of_registered? {c : Client} {serverId : String} {id : EntryId}
    (h : c.registered? serverId = some id) : id ∈ c.registry.map (·.2) := by
  obtain ⟨l, r, heq, -⟩ := List.lookup_eq_some_iff.1 h
  rw [heq]
  simp

theorem Registered.of_registered? {c : Client} (h : c.Registered) {serverId : String}
    {id : EntryId} (hr : c.registered? serverId = some id) : id < c.entries.length := by
  obtain ⟨r, hm, rfl⟩ := List.mem_map.1 (mem_of_registered? hr)
  exact h r hm

section

variable {c d : Client}

theorem Quiet.judge (h : Quiet c d) {id : EntryId} (hid : id < c.entries.length)
    (hr : id ∈ c.registry.map (·.2)) (e : Entry) (p : Job.Parameters) :
    Quiet c (d.judge id e p) := by
  unfold Client.judge
  split
  · exact (h.reveal _).spawn (.refresh hid hr)
  · split
    · exact (h.reveal _).reveal _
    · split
      · exact h.reveal _
      · exact (h.reveal _).spawn (.refresh hid hr)

variable (r : c.Registered)
include r

theorem Quiet.dispatch (h : Quiet c d) (q : Queued) : Quiet c (d.dispatch q) := by
  unfold Client.dispatch
  split
  · exact h.reveal _
  · split
    · exact h.reveal _
    · rename_i id e heq
      obtain ⟨j, hj, he⟩ := Option.bind_eq_some_iff.1 heq
      obtain ⟨e', -, ⟨⟩⟩ := Option.map_eq_some_iff.1 he
      have hc : c.registered? q.serverId = some id := by
        rw [registered?, ← h.registry]
        exact hj
      exact h.judge (r.of_registered? hc) (mem_of_registered? hc) e _

theorem Quiet.withQueue (h : Quiet c d) (q : JobQueue Queued × Option Queued) :
    Quiet c (d.withQueue q) := by
  unfold Client.withQueue
  dsimp only
  split
  · exact h.setQueue _
  · exact (h.setQueue _).dispatch r _

theorem Quiet.startQueue (h : Quiet c d) : Quiet c d.startQueue := by
  unfold Client.startQueue
  dsimp only
  split
  · exact h.withQueue r _
  · exact (h.spawn .driver).withQueue r _

theorem Quiet.enqueue (h : Quiet c d) (serverId : String) (jobs : List Job.Parameters) :
    Quiet c (d.enqueue serverId jobs) := by
  induction jobs generalizing d with
  | nil => exact h
  | cons p rest ih => exact ih (h.withQueue r _)

end

end Client
end Harvest.Sync
