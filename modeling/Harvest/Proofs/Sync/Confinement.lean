import Harvest.Proofs.Sync.Steps
/-!
What an act leaves alone. A task that goes on changes the entries that it is about, and its requests
are made for them; the host changes the entries that it stops or defines anew. All other entries
stay exactly as they are.
-/

namespace Harvest.Sync

/-- The entry that a request is made for, unless it is for the page of a job. -/
def Purpose.entry? : Purpose → Option EntryId
  | .resources id => some id
  | .jobs id => some id
  | .submission id => some id
  | .page => none

/-- Whether a sign is no request, or one that is made for an entry. -/
def Sign.Serves (id : EntryId) (s : Sign) : Prop := ∀ p r, s = .sent p r → p.entry? = some id

theorem Sign.Plain.serves {s : Sign} (h : s.Plain) (id : EntryId) : s.Serves id := by
  rintro p r rfl
  exact h.elim

theorem Sign.serves_sent {id : EntryId} {p : Purpose} (h : p.entry? = some id)
    (r : Http.Request) : (Sign.sent p r).Serves id := by
  rintro p' r' ⟨⟩
  exact h

theorem Sign.serves_event (e : Event) (id : EntryId) : (Sign.event e).Serves id := by
  intro p r h
  cases h

namespace Client

/-- Whether an entry is as it was. -/
structure Leaves (j : EntryId) (c d : Client) : Prop where
  entry : d.entry? j = c.entry? j

theorem entries_dispatch (c : Client) (q : Queued) : (c.dispatch q).entries = c.entries := by
  unfold dispatch
  split
  · rfl
  · split
    · rfl
    · unfold judge
      split
      · rfl
      · split
        · rfl
        · split <;> rfl

theorem entries_withQueue (c : Client) (q : JobQueue Queued × Option Queued) :
    (c.withQueue q).entries = c.entries := by
  unfold withQueue
  dsimp only
  split
  · rfl
  · exact entries_dispatch _ _

theorem entries_enqueue (c : Client) (serverId : String) (jobs : List Job.Parameters) :
    (c.enqueue serverId jobs).entries = c.entries := by
  induction jobs generalizing c with
  | nil => rfl
  | cons p rest ih => exact (ih _).trans (entries_withQueue ..)

theorem entries_startQueue (c : Client) : c.startQueue.entries = c.entries := by
  unfold startQueue
  dsimp only
  split <;> exact entries_withQueue _ _

section

variable {c d : Client} {j : EntryId}

theorem Leaves.refl (j : EntryId) (c : Client) : Leaves j c c := ⟨rfl⟩

theorem Leaves.trans (h : Leaves j c d) {e : Client} (g : Leaves j d e) : Leaves j c e :=
  ⟨g.entry.trans h.entry⟩

theorem Leaves.congr (h : Leaves j c d) {e : Client} (he : e.entries = d.entries) :
    Leaves j c e := by
  refine ⟨Eq.trans ?_ h.entry⟩
  rw [Client.entry?, he, entry?]

theorem Leaves.account (h : Leaves j c d) : d.account? j = c.account? j :=
  congrArg (Option.map Entry.account) h.entry

theorem Leaves.reveal (h : Leaves j c d) (s : Sign) : Leaves j c (d.reveal s) := h.congr rfl

theorem Leaves.spawn (h : Leaves j c d) (next : List Next) : Leaves j c (d.spawn next) :=
  h.congr rfl

theorem Leaves.grant (h : Leaves j c d) (k : TaskId) : Leaves j c (d.grant k) := by
  refine h.congr ?_
  unfold Client.grant
  split <;> rfl

theorem Leaves.modifyEntry (h : Leaves j c d) {id : EntryId} (hj : id ≠ j) (f : Entry → Entry) :
    Leaves j c (d.modifyEntry id f) := by
  refine ⟨Eq.trans ?_ h.entry⟩
  simp [entry?_modifyEntry, hj]

theorem Leaves.retime (h : Leaves j c d) {id : EntryId} (hj : id ≠ j) (kind : Option Timer.Kind) :
    Leaves j c (d.retime id kind) := by
  refine ⟨Eq.trans ?_ h.entry⟩
  simp [entry?_retime, hj]

theorem Leaves.stopEntries (h : Leaves j c d) {ids : List EntryId} (hj : j ∉ ids) :
    Leaves j c (Client.stopEntries ids d) := by
  induction ids generalizing d with
  | nil => exact h
  | cons id ids ih =>
    rw [Client.stopEntries, stopEntry_eq]
    exact ih (h.retime (fun he => hj (he ▸ List.mem_cons_self)) none)
      fun hm => hj (List.mem_cons_of_mem id hm)

theorem Leaves.acquire (h : Leaves j c d) (k : TaskId) {id : EntryId} (hj : id ≠ j)
    (forced : Bool) : Leaves j c (d.acquire k id forced).1 := by
  unfold Client.acquire
  split
  · exact h
  · split <;> exact h.modifyEntry hj _

theorem Leaves.release (h : Leaves j c d) {id : EntryId} (hj : id ≠ j) :
    Leaves j c (d.release id) := by
  unfold Client.release
  split
  · exact h
  · exact h.modifyEntry hj _
  · exact (h.modifyEntry hj _).grant _

theorem Leaves.fetched (h : Leaves j c d) {id : EntryId} (hj : id ≠ j) (server : Server)
    (result : Except Error Resource.Catalog) : Leaves j c (d.fetched id server result) := by
  unfold Client.fetched
  split <;> exact ((h.modifyEntry hj _).reveal _).release hj

theorem Leaves.refresh (h : Leaves j c d) {id : EntryId} (hj : id ≠ j) (forced : Bool)
    (next : List Next) : Leaves j c (d.refresh id forced next).1 := by
  unfold Client.refresh
  split
  · exact h
  · split
    · exact (h.reveal _).release hj
    · split
      · dsimp only
        exact h.fetched hj _ _
      · exact h.reveal _

theorem Leaves.pause (h : Leaves j c d) {id : EntryId} (hj : id ≠ j) (next : List Next) :
    Leaves j c (d.pause id next).1 := by
  have hr := h.retime hj (some .resume)
  rw [pause_eq]
  split
  · exact hr
  · split
    · exact hr
    · exact (hr.reveal _).spawn _

theorem Leaves.pollFailed (h : Leaves j c d) {id : EntryId} (hj : id ≠ j) (server : Server)
    (fault : Error) (next : List Next) : Leaves j c (d.pollFailed id server fault next).1 := by
  have hc : Leaves j c (d.countError id) := h.modifyEntry hj _
  rw [Client.pollFailed]
  split
  · exact (hc.reveal _).pause hj next
  · exact hc.reveal _

theorem Leaves.permitted (h : Leaves j c d) {id : EntryId} (hj : id ≠ j) (server : Server)
    (answer : Except Error (List String)) (next : List Next) :
    Leaves j c (d.permitted id server answer next).1 := by
  unfold Client.permitted
  split
  · exact h.pollFailed hj ..
  · exact h.reveal _

theorem Leaves.polled (h : Leaves j c d) {id : EntryId} (hj : id ≠ j) (server : Server)
    (answer : Except Error Coordinator.Jobs) (next : List Next) :
    Leaves j c (d.polled id server answer next).1 := by
  unfold Client.polled
  split
  · exact h.pollFailed hj ..
  · dsimp only
    split
    · exact (h.reveal _).reveal _
    · exact h.reveal _

theorem Leaves.delivered (h : Leaves j c d) {x : Delivery} (hj : x.entry ≠ j) (server : Server)
    (hash : String) (outcome : Except Error Coordinator.Submission) (next : List Next) :
    Leaves j c (d.delivered x server hash outcome next).1 := by
  unfold Client.delivered
  dsimp only
  split
  · exact h.reveal _
  · exact h.reveal _
  · exact h.reveal _
  · split
    · exact h.reveal _
    · exact ((h.reveal _).modifyEntry hj _).pause hj next

theorem entries_attempt (c : Client) (x : Delivery) : (c.attempt x).1.entries = c.entries := by
  unfold attempt
  split
  · rfl
  · dsimp only
    split
    · rfl
    · split
      · rfl
      · split <;> rfl

theorem entries_submit (c : Client) (result : JobResult) :
    (c.submit result).1.entries = c.entries := by
  unfold submit
  split
  · rfl
  · exact entries_attempt ..

theorem entries_execute (c : Client) (job : Job) : (c.execute job).1.entries = c.entries := by
  unfold execute
  split
  · exact entries_submit ..
  · rfl

/-! Tasks -/

theorem leaves_heed {t : Task} {s : Signal} {b : Client × Course} (heq : c.heed t s = some b)
    (hj : t.wait.entry? ≠ some j) : Leaves j c b.1 := by
  have h : Leaves j c c := .refl j c
  have hne : ∀ id, some id ≠ some j → id ≠ j := fun id hid he => hid (congrArg some he)
  cases heeds_of_heed heq with
  | granted => exact h.refresh (hne _ hj) ..
  | resources => exact h.fetched (hne _ hj) ..
  | permission => exact h.permitted (hne _ hj) ..
  | jobs => exact h.polled (hne _ hj) ..
  | submission => exact h.delivered (hne _ hj) ..
  | drive => exact h.congr (entries_withQueue ..)
  | resume => exact h.reveal _
  | turn | page | tick | tickCancelled | resumeCancelled => exact h

theorem leaves_perform (c : Client) (k : TaskId) {n : Next} (hj : n.entry? ≠ some j) :
    Leaves j c (c.perform k n).1 := by
  have h : Leaves j c c := .refl j c
  have hne : ∀ id, some id ≠ some j → id ≠ j := fun id hid he => hid (congrArg some he)
  cases n with
  | start id =>
    have ha := (h.retime (hne id hj) (some .poll)).acquire k (hne id hj) false
    rw [perform, beginStart_eq]
    dsimp only
    split <;> rename_i heq <;> rw [heq] at ha <;> exact ha
  | started id token =>
    rw [perform]
    split
    · exact h
    · split <;> rw [poll_fst]
      · exact h
      · exact h.congr rfl
  | refresh id forced => exact h.acquire k (hne id hj) forced
  | poll id =>
    rw [perform, poll_fst]
    exact h
  | enqueue serverId jobs => exact h.congr (entries_enqueue ..)
  | submit result => exact h.congr (entries_submit ..)
  | attempt x => exact h.congr (entries_attempt ..)
  | execute job => exact h.congr (entries_execute ..)
  | beginTimer | timer | beginPause | beginDriver => exact h

theorem leaves_run {k : TaskId} {next : List Next} {c : Client}
    (hj : ∀ n ∈ doing k next c, n.entry? ≠ some j) : Leaves j c (run k next c) := by
  induction next generalizing c with
  | nil => exact .refl j c
  | cons n rest ih =>
    rw [doing] at hj
    have hp := leaves_perform c k (hj n List.mem_cons_self)
    rw [run]
    generalize c.perform k n = a at hp hj
    obtain ⟨d, p⟩ := a
    cases p with
    | done => exact hp.trans (ih fun m hm => hj m (List.mem_cons_of_mem n hm))
    | waiting w more => exact hp.congr rfl

theorem leaves_wake {t : Task} {s : Signal} (hw : t.wait.entry? ≠ some j)
    (hd : ∀ n ∈ c.doneBy (.wake t s), n.entry? ≠ some j) : Leaves j c (c.wake t s) := by
  rw [doneBy] at hd
  rw [wake]
  cases heq : (c.dropTask t.id).heed t s with
  | none => exact .refl j c
  | some b =>
    have hdrop : Leaves j c (c.dropTask t.id) := (Leaves.refl j c).congr rfl
    have hb : Leaves j c b.1 := hdrop.trans (leaves_heed heq hw)
    rw [heq] at hd
    obtain ⟨d, course⟩ := b
    cases course with
    | goesOn next => exact hb.trans (leaves_run hd)
    | waits w next => exact hb.congr rfl
    | ends => exact hb

/-! Acts -/

/-- Whether an act is about an entry: a task goes on that waits on its account, or something is done
    for it, or the host stops its server or defines it anew. -/
inductive Concerns (c : Client) (id : EntryId) : Act → Prop
  | waits {t : Task} {s : Signal} : t.wait.entry? = some id → c.Concerns id (.wake t s)
  | does {a : Act} {n : Next} : n ∈ c.doneBy a → n.entry? = some id → c.Concerns id a
  | stops {a : Act} : id ∈ c.halted a → c.Concerns id a
  | updates {s : Server} : c.registered? s.id = some id → c.Concerns id (.updateServer s)

theorem leaves_undertake {next : List Next} (hd : ∀ n ∈ c.undertaking next, n.entry? ≠ some j) :
    Leaves j c (c.undertake next) := by
  have hr : Leaves j { c with taskCount := c.taskCount + 1 } (c.undertake next) := leaves_run hd
  exact ⟨hr.entry⟩

/-- An act leaves the entries alone that it is not about. -/
theorem leaves_after {a : Act} (known : j < c.entries.length) (hj : ¬ c.Concerns j a) :
    Leaves j c (c.after a) := by
  have hd : ∀ n ∈ c.doneBy a, n.entry? ≠ some j := fun n hn he => hj (.does hn he)
  have h : Leaves j c c := .refl j c
  cases a with
  | wake t s => exact leaves_wake (fun he => hj (.waits he)) hd
  | elapse now => exact h.congr rfl
  | addServer s =>
    refine ⟨?_⟩
    change Client.entry? (c.addServer s) j = _
    rw [Client.entry?, entries_addServer, List.getElem?_append_left known]
    rfl
  | updateServer s =>
    change Leaves j c (c.updateServer s).2
    unfold updateServer
    split
    · exact h.reveal _
    · rename_i id hid
      refine h.modifyEntry ?_ _
      rintro rfl
      exact hj (.updates hid)
  | start serverId =>
    rw [doneBy_start] at hd
    rw [after_start]
    split
    · exact h
    · rename_i id hid
      rw [hid] at hd
      exact leaves_undertake hd
  | startAll => exact (h.congr (entries_startQueue c)).trans (leaves_undertake hd)
  | stop serverId =>
    change Leaves j c (c.stop serverId)
    unfold stop
    split
    · exact h
    · rename_i id hid
      rw [stopEntry_eq]
      refine h.retime ?_ none
      rintro rfl
      exact hj (.stops (by simp [halted, hid]))
  | stopAll =>
    have hq : Leaves j c { c with queue := c.queue.stop } := h.congr rfl
    exact hq.stopEntries fun hm => hj (.stops hm)
  | submit r => exact leaves_undertake hd
  | execute job => exact h.congr rfl

/-! Requests -/

theorem serves_perform {id : EntryId} (h : Reveals (Sign.Serves id) c d) (k : TaskId) {n : Next}
    (hn : n.entry? = some id) : Reveals (Sign.Serves id) c (d.perform k n).1 := by
  by_cases hx : ∃ x, n = .attempt x
  · obtain ⟨x, rfl⟩ := hx
    exact h.attempt (fun s hs => hs.serves id) x
      fun _ _ r _ _ => Sign.serves_sent (p := .submission x.entry) hn r
  · cases n with
    | attempt x => exact absurd ⟨x, rfl⟩ hx
    | enqueue | submit | execute | beginDriver => cases hn
    | start i =>
      have hr : Reveals (Sign.Serves id) c (d.retime i (some .poll)) := h.congr rfl rfl
      have ha := hr.acquire k i false
      rw [perform, beginStart_eq]
      dsimp only
      split <;> rename_i heq <;> rw [heq] at ha <;> exact ha
    | started i token =>
      have hs : Reveals (Sign.Serves id) c (d.spawn [.beginTimer i token]) := h.congr rfl rfl
      rw [perform]
      split
      · exact h
      · split <;> rw [poll_fst] <;> assumption
    | refresh i forced => exact h.acquire k i forced
    | poll i =>
      rw [perform, poll_fst]
      exact h
    | beginTimer | timer | beginPause => exact h

theorem serves_run {id : EntryId} {k : TaskId} {next : List Next}
    (h : Reveals (Sign.Serves id) c d) (hn : ∀ n ∈ doing k next d, n.entry? = some id) :
    Reveals (Sign.Serves id) c (run k next d) := by
  induction next generalizing d with
  | nil => exact h
  | cons n rest ih =>
    rw [doing] at hn
    have hp := serves_perform h k (hn n List.mem_cons_self)
    rw [run]
    generalize d.perform k n = a at hp hn
    obtain ⟨e, p⟩ := a
    cases p with
    | done => exact ih hp fun m hm => hn m (List.mem_cons_of_mem n hm)
    | waiting w more => exact hp.congr rfl rfl

/-- A task that goes on for an entry, and does nothing but for it, makes its requests for it. -/
theorem serves_wake {id : EntryId} {t : Task} {s : Signal} (hw : t.wait.entry? = some id)
    (hd : ∀ n ∈ c.doneBy (.wake t s), n.entry? = some id) :
    Reveals (Sign.Serves id) c (c.wake t s) := by
  have hdrop : Reveals (Sign.Serves id) c (c.dropTask t.id) := (Reveals.refl c).congr rfl rfl
  rw [doneBy] at hd
  rw [wake]
  cases heq : (c.dropTask t.id).heed t s with
  | none => exact .refl c
  | some b =>
    have hb : Reveals (Sign.Serves id) c b.1 := by
      refine hdrop.heed (fun s hs => hs.serves id) heq ?_ ?_ ?_ ?_
      · intro driver ticker hdrive
        rw [hdrive] at hw
        cases hw
      · intro i forced e r hi _ _ _
        rw [hi] at hw
        exact Sign.serves_sent (p := .resources i) hw r
      · intro i server answer r hi _ _
        rw [hi] at hw
        exact Sign.serves_sent (p := .jobs i) hw r
      · exact fun _ _ _ _ _ _ _ _ => Sign.serves_event _ id
    rw [heq] at hd
    obtain ⟨d, course⟩ := b
    cases course with
    | goesOn next => exact serves_run hb hd
    | waits w next => exact hb.congr rfl rfl
    | ends => exact hb

end

end Client
end Harvest.Sync
