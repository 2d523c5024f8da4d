import Harvest.Proofs.Sync.Running
import Harvest.Proofs.Sync.Signs
/-!
The steps of a client. Everything that is done keeps the order among the tokens: by a task that is
told something and goes on, by a new task of the host, and by the host itself when it registers or
stops servers. An act tells a task what it waits for, or it comes from the host: it changes nothing
that matters to tasks and tokens, registers a server, has some servers stopped, or has a new task
begin.
-/

/-! What keeps the order among the tokens -/

namespace Harvest.Sync.Client

/-! What a task does when it is told something -/

section

variable {c : Client} {k : TaskId} {next : List Next}

theorem Sound.revealed {w : Wait} (h : (c.suspend k w next).Sound) (s : Sign) :
    ((c.reveal s).suspend k w next).Sound :=
  h.quiet (((Quiet.refl c).reveal s).suspend k w next)

theorem Sound.counted {w : Wait} (h : (c.suspend k w next).Sound) (id : EntryId) :
    ((c.countError id).suspend k w next).Sound :=
  Sound.countError h id

theorem Sound.pause (h : (c.suspend k .turn next).Sound) {id : EntryId}
    (hid : id < c.entries.length) :
    ((c.pause id next).1.resumed k (c.pause id next).2).Sound := by
  have hs : ((c.retime id (some .resume)).suspend k .turn next).Sound := h.retime hid _
  obtain ⟨e, he⟩ := exists_entry? hid
  rw [pause_eq]
  split
  · exact hs
  · rename_i f hf
    split
    · exact hs.of_suspend
    · refine Sound.swap (Sound.spawn (hs.revealed _) ?_ ?_)
      · rintro j ⟨⟩
        exact entry?_lt hf
      · rintro m ⟨⟩
        have hm := h.spare_retime he .resume
        exact ⟨hm.fresh, hm.own, hm.held⟩

theorem Sound.pollFailed (h : (c.suspend k .turn next).Sound) {id : EntryId}
    (hid : id < c.entries.length) (server : Server) (fault : Error) :
    ((c.pollFailed id server fault next).1.resumed k
      (c.pollFailed id server fault next).2).Sound := by
  have hl := fun s => (h.counted id).revealed s
  rw [Client.pollFailed]
  split
  · exact (hl _).pause (by simpa [Client.countError, modifyEntry, log, reveal] using hid)
  · exact hl _

/-- A task that is told something may lose the token that it waits with. -/
theorem Sound.told {w : Wait} (h : (c.suspend k w next).Sound) :
    (c.suspend k .turn next).Sound := by
  refine h.resuspend ?_ (by simp [Task.timers, Wait.timer?])
  intro j hj
  refine h.known_of_suspend ?_
  simp only [Task.entries, List.mem_append] at hj ⊢
  exact .inr (hj.resolve_left (by simp [Wait.entry?]))

theorem Sound.more {n : Next} (h : (c.suspend k .turn next).Sound)
    (known : ∀ id, n.entry? = some id → id < c.entries.length) (timer : n.timer? = none) :
    (c.suspend k .turn (n :: next)).Sound := by
  refine h.resuspend ?_ ?_
  · intro j hj
    simp only [Task.entries, filterMap_cons_toList, List.mem_append, Option.mem_toList] at hj
    rcases hj with hj | hj | hj
    · simp [Wait.entry?] at hj
    · exact known j hj
    · exact h.known_of_suspend (by simp [Task.entries, hj])
  · simp [Task.timers, Wait.timer?, timer]

theorem Sound.waits {v : Wait} (h : (c.suspend k .turn next).Sound)
    (known : ∀ id, v.entry? = some id → id < c.entries.length) (timer : v.timer? = none) :
    (c.suspend k v next).Sound := by
  refine h.resuspend ?_ (by simp [Task.timers, timer])
  intro j hj
  rcases List.mem_append.1 hj with hj | hj
  · exact known j (Option.mem_toList.1 hj)
  · exact h.known_of_suspend (List.mem_append_right _ hj)

theorem Sound.permitted (h : (c.suspend k .turn next).Sound) {id : EntryId}
    (hid : id < c.entries.length) (server : Server) (answer : Except Error (List String)) :
    ((c.permitted id server answer next).1.resumed k
      (c.permitted id server answer next).2).Sound := by
  unfold Client.permitted
  split
  · exact h.pollFailed hid _ _
  · refine (h.revealed _).waits ?_ rfl
    rintro j ⟨⟩
    exact hid

theorem Sound.polled (h : (c.suspend k .turn next).Sound) {id : EntryId}
    (hid : id < c.entries.length) (server : Server) (answer : Except Error Coordinator.Jobs) :
    ((c.polled id server answer next).1.resumed k
      (c.polled id server answer next).2).Sound := by
  unfold Client.polled
  split
  · exact h.pollFailed hid _ _
  · dsimp only
    have hn := fun sid jobs => h.more (n := .enqueue sid jobs) (by rintro j ⟨⟩) rfl
    split
    · refine (((hn _ _).revealed _).revealed _).more ?_ rfl
      rintro j ⟨⟩
      exact hid
    · exact (hn _ _).revealed _

theorem Sound.delivered (h : (c.suspend k .turn next).Sound) {d : Delivery}
    (hid : d.entry < c.entries.length) (server : Server) (hash : String)
    (outcome : Except Error Coordinator.Submission) :
    ((c.delivered d server hash outcome next).1.resumed k
      (c.delivered d server hash outcome next).2).Sound := by
  unfold Client.delivered
  dsimp only
  split
  · exact h.revealed _
  · exact h.revealed _
  · exact h.revealed _
  · split
    · refine ((h.revealed _).more ?_ rfl).more ?_ rfl
      · rintro j ⟨⟩
        exact hid
      · rintro j ⟨⟩
        exact hid
    · refine ((h.revealed _).counted d.entry).pause ?_
      simpa [Client.countError, modifyEntry, log, reveal] using hid

theorem Sound.refresh (h : (c.suspend k .turn next).Sound) (id : EntryId) (forced : Bool) :
    ((c.refresh id forced next).1.resumed k (c.refresh id forced next).2).Sound := by
  have hn : c.Numbered := h.numbered.of_suspend
  unfold Client.refresh
  split
  · exact h
  · rename_i e he
    split
    · exact h.quiet ((((Quiet.refl c).reveal _).release hn id).suspend k .turn next)
    · split
      · exact h.quiet (((Quiet.refl c).fetched hn ..).suspend k .turn next)
      · refine (h.revealed _).waits ?_ rfl
        rintro j ⟨⟩
        exact entry?_lt he

theorem Sound.tick {id : EntryId} {token : Token} {ticker : Ticker}
    (h : (c.suspend k (.tick id token ticker) next).Sound) (later : Ticker) :
    (c.suspend k .turn (.poll id :: .timer id token later :: next)).Sound := by
  have hid : id < c.entries.length := h.known_of_suspend (by simp [Task.entries, Wait.entry?])
  refine h.resuspend ?_ (by simp [Task.timers, Wait.timer?, Next.timer?, filterMap_cons_toList])
  intro j hj
  simp only [Task.entries, Wait.entry?, Next.entry?, filterMap_cons_toList, Option.toList_none,
    Option.toList_some, List.nil_append, List.mem_append, List.mem_singleton] at hj
  rcases hj with rfl | rfl | hj
  · exact hid
  · exact hid
  · exact h.known_of_suspend (List.mem_append_right _ hj)

theorem Sound.heed {t : Task} (h : (c.suspend t.id t.wait t.next).Sound) {s : Signal}
    {a : Client × Course} (heq : c.heed t s = some a) : (a.1.resumed t.id a.2).Sound := by
  have hw : ∀ id, t.wait.entry? = some id → id < c.entries.length := by
    intro id hid
    exact h.known_of_suspend (by simp [Task.entries, hid])
  have ht := h.told
  cases heeds_of_heed heq with
  | turn => exact h
  | @granted k id forced next =>
    exact ht.refresh id forced
  | @resources k id server r reply next =>
    exact ht.quiet (((Quiet.refl c).fetched h.numbered.of_suspend ..).suspend k .turn next)
  | @permission k id server answer next => exact ht.permitted (hw id rfl) server answer
  | @jobs k id server r reply next => exact ht.polled (hw id rfl) server _
  | @submission k d server hash r reply next => exact ht.delivered (hw d.entry rfl) server hash _
  | page => exact ht.more (by rintro j ⟨⟩) rfl
  | tick => exact h.tick _
  | @resume k id token due name next =>
    exact (ht.revealed _).more (by rintro j ⟨⟩; exact hw id rfl) rfl
  | @drive k driver ticker next course hc =>
    have hr : c.Registered := h.registered
    have hq := ht.quiet (((Quiet.refl c).withQueue hr
      (c.queue.drive driver c.now.clock)).suspend k .turn next)
    rcases hc with rfl | ⟨t, rfl⟩
    · exact hq.of_suspend
    · exact hq.waits (by rintro j ⟨⟩) rfl
  | tickCancelled => exact h.of_suspend
  | resumeCancelled => exact h.of_suspend

end

/-! What happens to a client -/

/-- A task that waits may be thought of as the one that acts. -/
theorem Sound.resume {c : Client} (h : c.Sound) {t : Task} (ht : t ∈ c.tasks) :
    ((c.dropTask t.id).suspend t.id t.wait t.next).Sound :=
  h.quiet ⟨fun _ => rfl, rfl, rfl, rfl, rfl, rfl, [], h.numbered.adds_resume ht rfl, by simp⟩

theorem Sound.wake {c : Client} (h : c.Sound) {t : Task} (ht : t ∈ c.tasks) (s : Signal) :
    (c.wake t s).Sound := by
  unfold Client.wake
  split
  · rename_i d course heq
    exact ((h.resume ht).heed heq).follow
  · exact h

theorem Sound.undertaking {c : Client} (h : c.Sound) {next : List Next}
    (known : ∀ n ∈ next, ∀ id, n.entry? = some id → id < c.entries.length)
    (timers : ∀ n ∈ next, n.timer? = none) :
    ({ c with taskCount := c.taskCount + 1 }.suspend c.taskCount .turn next).Sound := by
  have hm : Task.timers ⟨c.taskCount, .turn, next⟩ = [] := by
    simpa [Task.timers, Wait.timer?] using timers
  refine h.retask ⟨?_, ?_⟩ rfl rfl rfl rfl ?_ (m := none) (by simp) (.refl _) ?_
  · have hd : ∀ t ∈ c.tasks, t.id ≠ c.taskCount := fun t ht => Nat.ne_of_lt (h.numbered.below t ht)
    simp only [suspend, List.map_append, List.map_cons, List.map_nil, List.nodup_append]
    refine ⟨h.numbered.nodup, by simp, ?_⟩
    intro a ha b hb
    obtain ⟨t, ht, rfl⟩ := List.mem_map.1 ha
    obtain rfl := List.mem_singleton.1 hb
    exact hd t ht
  · intro t ht
    rcases List.mem_append.1 ht with ht | ht
    · exact Nat.lt_succ_of_lt (h.numbered.below t ht)
    · obtain rfl := List.mem_singleton.1 ht
      exact Nat.lt_succ_self _
  · intro id hid
    rw [mentions_suspend] at hid
    rcases List.mem_append.1 hid with hid | hid
    · exact h.known id hid
    · simp only [Task.entries, Wait.entry?, Option.toList_none, List.nil_append,
        List.mem_filterMap] at hid
      obtain ⟨n, hn, hid⟩ := hid
      exact known n hn id hid
  · rw [timers_suspend, hm, List.append_nil]
    exact .refl _

theorem Sound.addEntry {c : Client} (h : c.Sound) (s : Server) {registry : List (String × EntryId)}
    (hr : ∀ r ∈ registry, r.2 < c.entries.length + 1) :
    { c with entries := c.entries ++ [Entry.new s], registry := registry }.Sound := by
  have hold : ∀ {id : EntryId} {e : Entry}, c.entry? id = some e →
      (c.entries ++ [Entry.new s])[id]? = some e := fun he => by
    rw [List.getElem?_append_left (entry?_lt he)]
    exact he
  have hsize : (c.entries ++ [Entry.new s]).length = c.entries.length + 1 := by simp
  refine ⟨⟨h.numbered.nodup, h.numbered.below⟩, ?_, ?_, ?_, h.spent, ?_, h.single, h.owned, ?_⟩
  · exact fun r hm => Nat.lt_of_lt_of_eq (hr r hm) hsize.symm
  · exact fun id hid => Nat.lt_of_lt_of_eq (Nat.lt_succ_of_lt (h.known id hid)) hsize.symm
  · exact fun id hid => Nat.lt_of_lt_of_eq (Nat.lt_succ_of_lt (h.made id hid)) hsize.symm
  · intro id e he
    change (c.entries ++ [Entry.new s])[id]? = some e at he
    by_cases hid : id < c.entries.length
    · rw [List.getElem?_append_left hid] at he
      obtain ⟨t, ht⟩ := h.timed id e he
      exact ⟨t, ht.grip, ht.own, ht.cancelled_iff⟩
    · obtain ⟨hl, he⟩ := List.getElem?_eq_some_iff.1 he
      have hid : id = c.entries.length :=
        Nat.le_antisymm (Nat.le_of_lt_succ (Nat.lt_of_lt_of_eq hl hsize)) (Nat.not_lt.1 hid)
      subst hid
      obtain rfl : Entry.new s = e := by simpa using he
      refine ⟨none, ⟨rfl, rfl, rfl⟩, by simp, ?_⟩
      intro k hk
      exact absurd (h.made _ (List.mem_of_getElem? hk)) (Nat.lt_irrefl _)
  · intro m hm
    refine (h.live m hm).imp_right ?_
    rintro ⟨e, he, hk⟩
    exact ⟨e, hold he, hk⟩

theorem Sound.addServer {c : Client} (h : c.Sound) (s : Server) : (c.addServer s).Sound := by
  have hr : ∀ r ∈ c.registry, r.2 < c.entries.length + 1 := fun r hr =>
    Nat.lt_succ_of_lt (h.registered r hr)
  unfold Client.addServer
  dsimp only
  split
  · refine h.addEntry s ?_
    intro r hm
    rcases List.mem_append.1 hm with hm | hm
    · exact hr r hm
    · obtain rfl := List.mem_singleton.1 hm
      exact Nat.lt_succ_self _
  · refine h.addEntry s ?_
    intro r hm
    obtain ⟨q, hq, rfl⟩ := List.mem_map.1 hm
    split
    · exact Nat.lt_succ_self _
    · exact hr q hq

theorem Sound.stopEntry {c : Client} (h : c.Sound) {id : EntryId} (hid : id < c.entries.length) :
    (c.stopEntry id).Sound := by
  rw [stopEntry_eq]
  exact h.retime hid none

theorem Sound.stopEntries {c : Client} (h : c.Sound) {ids : List EntryId}
    (hid : ∀ id ∈ ids, id < c.entries.length) : (stopEntries ids c).Sound := by
  induction ids generalizing c with
  | nil => exact h
  | cons id ids ih =>
    refine ih (h.stopEntry (hid id List.mem_cons_self)) ?_
    intro j hj
    rw [stopEntry_eq]
    simpa [Client.retime] using hid j (List.mem_cons_of_mem id hj)

theorem Sound.undertakeStart {c : Client} (h : c.Sound) {m : List EntryId}
    (hm : ∀ id ∈ m, id < c.entries.length) :
    ({ c with taskCount := c.taskCount + 1 }.suspend c.taskCount .turn (m.map .start)).Sound := by
  refine h.undertaking ?_ ?_
  · intro n hn id hid
    obtain ⟨j, hj, rfl⟩ := List.mem_map.1 hn
    obtain rfl : j = id := Option.some.inj hid
    exact hm j hj
  · intro n hn
    obtain ⟨j, -, rfl⟩ := List.mem_map.1 hn
    rfl

theorem Sound.undertakeStartAll {c : Client} (h : c.Sound) :
    ({ c.startQueue with taskCount := c.startQueue.taskCount + 1 }.suspend c.startQueue.taskCount
      .turn c.startServers).Sound := by
  have q : Quiet c c.startQueue := (Quiet.refl c).startQueue h.registered
  have hs : c.startServers = (c.registry.map (·.2)).map .start := by
    simp [startServers]
  rw [hs]
  refine (h.quiet q).undertakeStart ?_
  intro id hid
  obtain ⟨r, hr, rfl⟩ := List.mem_map.1 hid
  exact q.size ▸ h.registered r hr

theorem Sound.undertakeSubmit {c : Client} (h : c.Sound) (r : JobResult) :
    ({ c with taskCount := c.taskCount + 1 }.suspend c.taskCount .turn [.submit r]).Sound := by
  refine h.undertaking ?_ ?_ <;> intro n hn <;> obtain rfl := List.mem_singleton.1 hn
  · rintro j ⟨⟩
  · rfl

/-! The kinds of acts -/

/-- An act that tells no task anything, and in which these things are done. -/
structure Orders (c : Client) (a : Act) (l : List Next) : Prop where
  host : ∀ t s, a ≠ .wake t s
  done : c.doneBy a = l

/-- What the host has a new task do. -/
inductive Begun (c : Client) : List Next → Prop
  | start {ids : List EntryId} : ids.Sublist (c.registry.map (·.2)) → c.Begun (ids.map .start)
  | submit (r : JobResult) : c.Begun [.submit r]

/-- The entries that the host stops by an act. -/
def halted (c : Client) : Act → List EntryId
  | .stop serverId => (c.registered? serverId).toList
  | .stopAll => c.registry.map (·.2)
  | _ => []

/-- What an act makes of a client. -/
inductive Step (c : Client) : Act → Client → Prop
  | wake {t : Task} {s : Signal} : t ∈ c.tasks → c.Ripe t.wait s →
      c.Step (.wake t s) (c.wake t s)
  | addServer (s : Server) : c.Step (.addServer s) (c.addServer s)
  | execute (job : Job) : c.Step (.execute job) (c.spawn [.execute job])
  | still {a : Act} {d : Client} : c.Orders a [] → Quiet c d → Reveals Sign.Plain c d →
      d.tasks = c.tasks → d.taskCount = c.taskCount → (∀ id, d.store? id = c.store? id) →
      c.halted a = [] → c.Step a d
  | stops {a : Act} {queue : JobQueue Queued} {ids : List EntryId} : c.Orders a [] →
      queue.pending = c.queue.pending → (∀ id ∈ ids, id < c.entries.length) → ids = c.halted a →
      c.Step a (stopEntries ids { c with queue := queue })
  | begins {a : Act} {d : Client} {next : List Next} : c.Orders a (d.undertaking next) →
      d = c ∨ d = c.startQueue → Quiet c d → c.Begun next →
      ({ d with taskCount := d.taskCount + 1 }.suspend d.taskCount .turn next).Sound →
      c.halted a = [] → c.Step a (d.undertake next)

theorem step_after {c : Client} (h : c.Sound) {a : Act} (p : c.Permits a) :
    c.Step a (c.after a) := by
  cases a with
  | wake t s => exact .wake p.1 p.2
  | elapse now =>
    exact .still ⟨by simp, rfl⟩
      ⟨fun _ => rfl, rfl, rfl, rfl, rfl, rfl, [], .of_eq rfl rfl, by simp⟩
      ((Reveals.refl c).congr rfl rfl) rfl rfl (fun _ => rfl) rfl
  | addServer s => exact .addServer s
  | updateServer s =>
    have ho : c.Orders (.updateServer s) [] := ⟨by simp, rfl⟩
    change c.Step (.updateServer s) (c.updateServer s).2
    unfold updateServer
    split
    · exact .still ho ((Quiet.refl c).reveal _) ((Reveals.refl c).reveal rfl) rfl rfl
        (fun _ => rfl) rfl
    · refine .still ho ((Quiet.refl c).modifyEntry _ fun _ => rfl)
        ((Reveals.refl c).modifyEntry ..) rfl rfl (fun id => ?_) rfl
      rw [store?, entry?_modifyEntry, store?, Option.map_map]
      congr 1
      funext e
      dsimp only [Function.comp]
      split <;> rfl
  | start serverId =>
    rw [after_start]
    split <;> rename_i hr
    · refine .still ⟨by simp, ?_⟩ (.refl c) (.refl c) rfl rfl (fun _ => rfl) rfl
      rw [doneBy_start, hr]
    · rename_i id
      have hdone : c.doneBy (.start serverId) = c.undertaking [.start id] := by
        rw [doneBy_start, hr]
      exact .begins ⟨by simp, hdone⟩ (.inl rfl) (.refl c)
        (.start (List.singleton_sublist.2 (mem_of_registered? hr)))
        (h.undertakeStart (m := [id]) (by simpa using h.registered.of_registered? hr)) rfl
  | startAll =>
    have hs : c.startServers = (c.registry.map (·.2)).map .start := by simp [startServers]
    exact .begins ⟨by simp, rfl⟩ (.inr rfl) ((Quiet.refl c).startQueue h.registered)
      (hs ▸ .start (.refl _)) h.undertakeStartAll rfl
  | stop serverId =>
    have ho : c.Orders (.stop serverId) [] := ⟨by simp, rfl⟩
    change c.Step (.stop serverId) (c.stop serverId)
    unfold stop
    split
    · rename_i hr
      exact .still ho (.refl c) (.refl c) rfl rfl (fun _ => rfl) (by simp [halted, hr])
    · rename_i id hr
      have hid : ∀ j ∈ [id], j < c.entries.length := by
        simpa using h.registered.of_registered? hr
      exact .stops ho rfl hid (by simp [halted, hr])
  | stopAll =>
    refine .stops ⟨by simp, rfl⟩ rfl (fun id hid => ?_) rfl
    obtain ⟨r, hr, rfl⟩ := List.mem_map.1 hid
    exact h.registered r hr
  | submit r =>
    exact .begins ⟨by simp, rfl⟩ (.inl rfl) (.refl c) (.submit r) (h.undertakeSubmit r) rfl
  | execute job => exact .execute job

theorem Sound.act {c : Client} (h : c.Sound) {a : Act} (p : c.Permits a) : (c.after a).Sound := by
  have hs := step_after h p
  generalize c.after a = d at hs
  cases hs with
  | wake ht => exact h.wake ht _
  | addServer s => exact h.addServer s
  | execute job => exact h.spawn (by rintro j ⟨⟩) (by rintro m ⟨⟩)
  | still _ q => exact h.quiet q
  | stops _ _ hids => exact (h.quiet ((Quiet.refl c).setQueue _)).stopEntries hids
  | begins _ _ _ _ hs => exact hs.run

theorem new_eq {settings : Settings} {allowed : Server → Except Error (List String)}
    {protection : Fetch.Protection} {now : Moment} {c : Client}
    (h : Client.new settings allowed protection now = .ok c) :
    c = ⟨settings, allowed, protection, now, [], [], .empty settings.queueInterval, [], 0, [], [],
      []⟩ ∧ settings.attempts ≠ 0 ∧ settings.pauseThreshold ≠ 0 := by
  unfold Client.new Settings.validate at h
  split at h
  · cases h
  · split at h
    · cases h
    · exact ⟨(Except.ok.inj h).symm, ‹_›, ‹_›⟩

theorem Reachable.sound {c : Client} (h : Reachable c) : c.Sound := by
  induction h with
  | new h =>
    obtain ⟨rfl, -, -⟩ := new_eq h
    refine ⟨⟨List.nodup_nil, ?_⟩, ?_, ?_, ?_, ?_, ?_, List.nodup_nil, ?_, ?_⟩ <;>
      simp [Registered, timers, mentions, entry?]
  | act _ p ih => exact ih.act p

end Harvest.Sync.Client
