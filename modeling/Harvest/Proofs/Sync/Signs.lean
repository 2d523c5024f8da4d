import Harvest.Proofs.Sync.Frame
/-!
What is to be seen of the parts of acts. Most of them are seen in notices and in events other than
those that have a job run or bring resources, and leave the queue alone.
-/

namespace Harvest.Sync

/-- Whether a sign tells what becomes of a job that leaves the queue. -/
def Sign.judges : Sign → Bool
  | .event (.runJob _) => true
  | .event (.insufficientAutonomy ..) => true
  | .notice (.expiredJob _) => true
  | .notice (.unknownServer ..) => true
  | .notice (.unknownResource ..) => true
  | .notice (.passiveServer ..) => true
  | .notice (.rejectedJob ..) => true
  | _ => false

/-- Neither a request nor about a job that leaves the queue or about new resources. -/
def Sign.Plain : Sign → Prop
  | .sent .. => False
  | .event (.updatedResources ..) => False
  | s => s.judges = false

theorem Sign.Plain.judges {s : Sign} (h : s.Plain) : s.judges = false := by
  cases s with
  | sent => exact h.elim
  | event e =>
    cases e with
    | updatedResources => exact h.elim
    | _ => exact h
  | notice => exact h

namespace Client

/-- What is to be seen of an act. -/
def shown (c : Client) (a : Act) : List (Nat × Sign) := (c.after a).signs.drop c.signs.length

theorem shown_of_signs {c : Client} {a : Act} {new : List (Nat × Sign)}
    (h : (c.after a).signs = c.signs ++ new) : c.shown a = new := by
  rw [shown, h, List.drop_left]

/-- Nothing is seen but signs of some kind, and the queue stays as it is. -/
structure Reveals (P : Sign → Prop) (c d : Client) : Prop where
  queue : d.queue = c.queue
  signs : ∃ new : List (Nat × Sign), d.signs = c.signs ++ new ∧ ∀ s ∈ new, P s.2

/-- Whether the results that are posted as things stand are signs of some kind. -/
def Posting (P : Sign → Prop) (c : Client) : Prop :=
  ∀ id server hash result r, c.server? id = some server →
    Coordinator.submitRequest c.settings.userAgent server hash result = .ok r →
    P (.sent (.submission id) r)

section

variable {P : Sign → Prop} {c d : Client}

theorem Posting.congr (h : Posting P c) (settings : d.settings = c.settings)
    (server : ∀ id, d.server? id = c.server? id) : Posting P d := by
  intro id s hash result r hs hr
  rw [server] at hs
  rw [settings] at hr
  exact h id s hash result r hs hr

theorem Posting.frame (h : Posting P c) (f : Frame c d) : Posting P d :=
  h.congr f.settings f.server

theorem Reveals.refl (c : Client) : Reveals P c c := ⟨rfl, [], by simp, by simp⟩

theorem Reveals.imp {Q : Sign → Prop} (h : Reveals P c d) (hq : ∀ s, P s → Q s) :
    Reveals Q c d := by
  obtain ⟨xs, hx, hxs⟩ := h.signs
  exact ⟨h.queue, xs, hx, fun s hs => hq _ (hxs s hs)⟩

theorem Reveals.congr (h : Reveals P c d) {e : Client} (queue : e.queue = d.queue)
    (signs : e.signs = d.signs) : Reveals P c e := by
  obtain ⟨xs, hx, hxs⟩ := h.signs
  exact ⟨queue.trans h.queue, xs, signs.trans hx, hxs⟩

theorem Reveals.reveal (h : Reveals P c d) {s : Sign} (hs : P s) : Reveals P c (d.reveal s) := by
  obtain ⟨xs, hx, hxs⟩ := h.signs
  refine ⟨h.queue, xs ++ [(d.now.clock, s)], ?_, ?_⟩
  · rw [Client.reveal, hx, List.append_assoc]
  · intro t ht
    rcases List.mem_append.1 ht with ht | ht
    · exact hxs t ht
    · obtain rfl := List.mem_singleton.1 ht
      exact hs

theorem Reveals.modifyEntry (h : Reveals P c d) (id : EntryId) (f : Entry → Entry) :
    Reveals P c (d.modifyEntry id f) := h.congr rfl rfl

theorem Reveals.acquire (h : Reveals P c d) (k : TaskId) (id : EntryId) (forced : Bool) :
    Reveals P c (d.acquire k id forced).1 := by
  unfold Client.acquire
  split
  · exact h
  · split <;> exact h.modifyEntry ..

theorem Reveals.grant (h : Reveals P c d) (k : TaskId) : Reveals P c (d.grant k) := by
  unfold Client.grant
  split
  · exact h.congr rfl rfl
  · exact h

theorem Reveals.release (h : Reveals P c d) (id : EntryId) : Reveals P c (d.release id) := by
  unfold Client.release
  split
  · exact h
  · exact h.modifyEntry ..
  · exact (h.modifyEntry ..).grant _

variable (plain : ∀ s, s.Plain → P s)
include plain

theorem Reveals.log (h : Reveals P c d) {n : Notice} (hn : (Sign.notice n).Plain) :
    Reveals P c (d.log n) :=
  h.reveal (plain _ hn)

theorem Reveals.fetched (h : Reveals P c d) (id : EntryId) (server : Server)
    (result : Except Error Resource.Catalog)
    (updates : ∀ catalog, result = .ok catalog →
      P (.event (.updatedResources server catalog.resources))) :
    Reveals P c (d.fetched id server result) := by
  unfold Client.fetched
  split
  · exact ((h.modifyEntry ..).reveal (updates _ rfl)).release id
  · exact ((h.modifyEntry ..).log plain (by exact rfl)).release id

theorem Reveals.pause (h : Reveals P c d) (id : EntryId) (next : List Next) :
    Reveals P c (d.pause id next).1 := by
  have hr : Reveals P c (d.retime id (some .resume)) := h.congr rfl rfl
  rw [pause_eq]
  split
  · exact hr
  · split
    · exact hr
    · exact (hr.log plain (by exact rfl)).congr rfl rfl

theorem Reveals.pollFailed (h : Reveals P c d) (id : EntryId) (server : Server) (fault : Error)
    (next : List Next) : Reveals P c (d.pollFailed id server fault next).1 := by
  have hl : ∀ count, Reveals P c ((d.countError id).log (.pollFailed server fault count)) :=
    fun _ => Reveals.log plain (h.modifyEntry ..) rfl
  rw [Client.pollFailed]
  split
  · exact (hl _).pause plain id next
  · exact hl _

theorem Reveals.polled (h : Reveals P c d) (id : EntryId) (server : Server)
    (answer : Except Error Coordinator.Jobs) (next : List Next) :
    Reveals P c (d.polled id server answer next).1 := by
  unfold Client.polled
  split
  · exact h.pollFailed plain ..
  · dsimp only
    split
    · exact (h.reveal (plain (.event (.polled _ _)) rfl)).log plain rfl
    · exact h.reveal (plain (.event (.polled _ _)) rfl)

theorem Reveals.delivered (h : Reveals P c d) (x : Delivery) (server : Server) (hash : String)
    (outcome : Except Error Coordinator.Submission) (next : List Next) :
    Reveals P c (d.delivered x server hash outcome next).1 := by
  unfold Client.delivered
  dsimp only
  split
  · exact h.log plain rfl
  · exact h.log plain rfl
  · exact h.log plain rfl
  · split
    · exact h.log plain rfl
    · exact Reveals.pause plain ((h.log plain (by exact rfl)).modifyEntry ..) ..

theorem Reveals.refresh (h : Reveals P c d) {id : EntryId} {forced : Bool}
    (asks : ∀ e r, d.entry? id = some e → (forced = false → d.recentFetch? e = none) →
      Coordinator.resourcesRequest d.settings.userAgent e.server = .ok r →
      P (.sent (.resources id) r)) (next : List Next) :
    Reveals P c (d.refresh id forced next).1 := by
  unfold Client.refresh
  split
  · exact h
  · rename_i e he
    split
    · exact (h.reveal (plain (.event (.resourceRateLimit _ _)) rfl)).release id
    · rename_i due
      split
      · dsimp only
        exact h.fetched plain id e.server _ nofun
      · rename_i r hr
        refine h.reveal (asks e r he (fun hf => ?_) hr)
        simpa [hf] using due

theorem Reveals.permitted (h : Reveals P c d) {id : EntryId} {server : Server}
    {answer : Except Error (List String)}
    (asks : ∀ r, answer.bind (Coordinator.jobsRequest d.settings.userAgent server) = .ok r →
      P (.sent (.jobs id) r)) (next : List Next) :
    Reveals P c (d.permitted id server answer next).1 := by
  unfold Client.permitted
  split
  · exact h.pollFailed plain ..
  · rename_i r hr
    exact h.reveal (asks r hr)

theorem Reveals.attempt (h : Reveals P c d) (x : Delivery)
    (posts : ∀ server hash r, d.server? x.entry = some server →
      Coordinator.submitRequest d.settings.userAgent server hash x.result = .ok r →
      P (.sent (.submission x.entry) r)) : Reveals P c (d.attempt x).1 := by
  unfold Client.attempt
  split
  · exact h
  · rename_i e he
    dsimp only
    split
    · exact h.log plain rfl
    · split
      · exact h.log plain rfl
      · split
        · exact h.log plain rfl
        · rename_i resource _ _ r hr
          refine h.reveal (posts e.server resource.hash r ?_ hr)
          rw [server?, he]
          rfl

variable (posts : Posting P d)
include posts

theorem Reveals.submit (h : Reveals P c d) (result : JobResult) :
    Reveals P c (d.submit result).1 := by
  unfold Client.submit
  split
  · exact h.log plain rfl
  · exact h.attempt plain _ fun server hash r => posts _ server hash result r

variable (fetches : ∀ r, P (.sent .page r))
include fetches

theorem Reveals.execute (h : Reveals P c d) (job : Job) : Reveals P c (d.execute job).1 := by
  unfold Client.execute
  split
  · exact h.submit plain posts _
  · exact h.reveal (fetches _)

/-- What a task does, but for putting jobs into the queue. -/
theorem Reveals.perform (h : Reveals P c d) (k : TaskId) {n : Next}
    (hn : ∀ serverId jobs, n ≠ .enqueue serverId jobs) : Reveals P c (d.perform k n).1 := by
  cases n with
  | start id =>
    have hr : Reveals P c (d.retime id (some .poll)) := h.congr rfl rfl
    have ha := hr.acquire k id false
    rw [Client.perform, beginStart_eq]
    dsimp only
    split <;> rename_i heq <;> rw [heq] at ha <;> exact ha
  | started id token =>
    have hs : Reveals P c (d.spawn [.beginTimer id token]) := h.congr rfl rfl
    rw [Client.perform]
    split
    · exact h
    · split <;> simp only [Client.poll] <;> split <;> assumption
  | refresh id forced => exact h.acquire k id forced
  | poll id =>
    simp only [Client.perform, Client.poll]
    split <;> exact h
  | enqueue serverId jobs => exact absurd rfl (hn serverId jobs)
  | submit result => exact h.submit plain posts result
  | attempt x => exact h.attempt plain x fun server hash r => posts _ server hash x.result r
  | execute job => exact h.execute plain posts fetches job
  | beginTimer id token => exact h
  | timer id token ticker => exact h
  | beginPause id token delay name => exact h
  | beginDriver driver => exact h

omit fetches posts in
/-- What a task does as soon as it is told something, but for a driver of the queue. -/
theorem Reveals.heed (h : Reveals P c d) {t : Task} {s : Signal} {a : Client × Course}
    (heq : d.heed t s = some a) (hw : ∀ driver ticker, t.wait ≠ .drive driver ticker)
    (asks : ∀ id forced e r, t.wait = .granted id forced → d.entry? id = some e →
      (forced = false → d.recentFetch? e = none) →
      Coordinator.resourcesRequest d.settings.userAgent e.server = .ok r →
      P (.sent (.resources id) r))
    (polls : ∀ id server answer r, t.wait = .permission id server → s = .permitted answer →
      answer.bind (Coordinator.jobsRequest d.settings.userAgent server) = .ok r →
      P (.sent (.jobs id) r))
    (updates : ∀ id server r reply catalog, t.wait = .resources id server r → s = .reply reply →
      Coordinator.catalog d.settings.requestTimeout r reply = .ok catalog →
      P (.event (.updatedResources server catalog.resources))) : Reveals P c a.1 := by
  cases heeds_of_heed heq with
  | turn => exact h
  | granted => exact h.refresh plain (fun e r => asks _ _ e r rfl) _
  | resources => exact h.fetched plain _ _ _ fun catalog => updates _ _ _ _ catalog rfl rfl
  | permission => exact h.permitted plain (fun r => polls _ _ _ r rfl rfl) _
  | jobs => exact h.polled plain ..
  | submission => exact h.delivered plain ..
  | page => exact h
  | tick => exact h
  | resume => exact h.log plain rfl
  | drive => exact absurd rfl (hw _ _)
  | tickCancelled => exact h
  | resumeCancelled => exact h

end

end Client
end Harvest.Sync
