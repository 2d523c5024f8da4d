import Harvest.Proofs.Sync.Transfer
/-!
What a task does keeps the order among the tokens. A task that acts is thought of as one that waits
for its turn with what is still to be done, so that each thing that it does leads from one sound
client to another one.
-/

namespace Harvest.Sync.Client

theorem filterMap_cons_toList {α β : Type} (f : α → Option β) (a : α) (l : List α) :
    (a :: l).filterMap f = (f a).toList ++ l.filterMap f := by
  cases h : f a <;> simp [h]

/-- A client whose task has come so far. -/
def resting (c : Client) (k : TaskId) (rest : List Next) : Progress → Client
  | .done => c.suspend k .turn rest
  | .waiting w more => c.suspend k w (more ++ rest)

/-- A client whose task takes this course. -/
def resumed (c : Client) (k : TaskId) : Course → Client
  | .goesOn next => c.suspend k .turn next
  | .waits w next => c.suspend k w next
  | .ends => c

theorem entry?_lt {c : Client} {id : EntryId} {e : Entry} (h : c.entry? id = some e) :
    id < c.entries.length :=
  (List.getElem?_eq_some_iff.1 h).1

theorem exists_entry? {c : Client} {id : EntryId} (h : id < c.entries.length) :
    ∃ e, c.entry? id = some e :=
  ⟨_, List.getElem?_eq_getElem h⟩

@[simp] theorem timers_resting (c : Client) (k : TaskId) (rest : List Next) (p : Progress) :
    (c.resting k rest p).timers = c.timers ++ (p.timers ++ rest.filterMap Next.timer?) := by
  cases p with
  | done => simp [resting, Progress.timers, Task.timers, Wait.timer?]
  | waiting w more => simp [resting, Progress.timers, Task.timers]

/-- What a task comes to when it does something: to its end, or to a wait. -/
inductive Rests (c : Client) : Next → Progress → Prop
  | done {n : Next} : (∀ m, n.timer? = some m → m.kind = .poll) → c.Rests n .done
  | refresh {id : EntryId} {forced : Bool} {w : Wait} :
      (w = .lock id forced ∨ w = .granted id forced) → c.Rests (.refresh id forced) (.waiting w [])
  | start {id : EntryId} {w : Wait} : (w = .lock id false ∨ w = .granted id false) →
      c.Rests (.start id) (.waiting w [.started id c.issued.length])
  | poll {n : Next} {id : EntryId} {e : Entry} : c.entry? id = some e →
      (n = .poll id ∨ ∃ token, token ∉ c.cancelled ∧ n = .started id token) →
      c.Rests n (.waiting (.permission id e.server) [])
  | submission {n : Next} {d : Delivery} {e : Entry} {hash : String} {r : Http.Request} :
      c.entry? d.entry = some e → n.delivers = true →
      (n.entry? = none ∧ d.entry ∈ c.registry.map (·.2)) ∨ n = .attempt d →
      c.Rests n (.waiting (.submission d e.server hash r) [])
  | page {job : Job} {r : Http.Request} : c.Rests (.execute job) (.waiting (.page job r) [])
  | beginTimer {id : EntryId} {token : Token} {ticker : Ticker} :
      c.Rests (.beginTimer id token) (.waiting (.tick id token ticker) [])
  | timer {id : EntryId} {token : Token} {ticker : Ticker} :
      c.Rests (.timer id token ticker) (.waiting (.tick id token ticker) [])
  | beginPause {id : EntryId} {token : Token} {delay due : Nat} {name : String} :
      c.Rests (.beginPause id token delay name) (.waiting (.resume id token due name) [])
  | beginDriver {driver : Nat} {ticker : Ticker} :
      c.Rests (.beginDriver driver) (.waiting (.drive driver ticker) [])

theorem Rests.started {c : Client} {n x : Next} {w : Wait} {more : List Next}
    (h : c.Rests n (.waiting w more)) (hx : x ∈ more) : ∃ id token, x = .started id token := by
  cases h with
  | start =>
    obtain rfl := List.mem_singleton.1 hx
    exact ⟨_, _, rfl⟩
  | _ => cases hx

theorem Rests.ne_turn {c : Client} {n : Next} {w : Wait} {more : List Next}
    (h : c.Rests n (.waiting w more)) : w ≠ .turn := by
  cases h with
  | refresh hw => rcases hw with rfl | rfl <;> simp
  | start hw => rcases hw with rfl | rfl <;> simp
  | _ => simp

@[simp] theorem poll_fst (c : Client) (id : EntryId) : (c.poll id).1 = c := by
  unfold poll
  split <;> rfl

/-- What becomes of a client when a task does something. Starts apart, it is quiet. -/
inductive Performs (c : Client) : Next → Client → Prop
  | start {id : EntryId} {d : Client} : Quiet (c.retime id (some .poll)) d →
      c.Performs (.start id) d
  | timer {id : EntryId} {token : Token} : token ∉ c.cancelled →
      c.Performs (.started id token) (c.spawn [.beginTimer id token])
  | quiet {n : Next} {d : Client} : (∀ id, n ≠ .start id) → Quiet c d → c.Performs n d

theorem performs_perform {c : Client} (r : c.Registered) (k : TaskId) (n : Next) :
    c.Performs n (c.perform k n).1 := by
  cases n with
  | start id =>
    have q := (Quiet.refl (c.retime id (some .poll))).acquire k id false
    rw [perform, beginStart_eq]
    dsimp only
    split <;> rename_i heq <;> rw [heq] at q <;> exact .start q
  | started id token =>
    rw [perform]
    split
    · exact .quiet nofun (.refl c)
    · rename_i live
      split <;> rw [poll_fst]
      · exact .quiet nofun (.refl c)
      · exact .timer (by simpa [isCancelled] using live)
  | refresh id forced => exact .quiet nofun ((Quiet.refl c).acquire k id forced)
  | poll id => exact .quiet nofun ((Quiet.refl c).poll id)
  | enqueue serverId jobs => exact .quiet nofun ((Quiet.refl c).enqueue r serverId jobs)
  | submit result => exact .quiet nofun ((Quiet.refl c).submit result)
  | attempt d => exact .quiet nofun ((Quiet.refl c).attempt d)
  | execute job => exact .quiet nofun ((Quiet.refl c).execute job)
  | beginTimer id token => exact .quiet nofun (.refl c)
  | timer id token ticker => exact .quiet nofun (.refl c)
  | beginPause id token delay name => exact .quiet nofun (.refl c)
  | beginDriver driver => exact .quiet nofun (.refl c)

theorem Rests.poll_of_started {c : Client} {id : EntryId} {token : Token} {p : Progress}
    (h : c.Rests (.started id token) p) : (c.spawn [.beginTimer id token]).Rests (.poll id) p := by
  cases h with
  | done => exact .done nofun
  | poll he hn =>
    obtain ⟨_, -, heq⟩ := hn.resolve_left nofun
    injection heq with h1
    subst h1
    exact .poll he (.inl rfl)
  | submission _ hd => cases hd

theorem acquire_progress (c : Client) (k : TaskId) (id : EntryId) (forced : Bool) :
    (c.acquire k id forced).2 = .done ∨ ∃ w, (c.acquire k id forced).2 = .waiting w [] ∧
      (w = .lock id forced ∨ w = .granted id forced) := by
  unfold acquire
  split
  · exact .inl rfl
  · split
    · exact .inr ⟨_, rfl, .inl rfl⟩
    · exact .inr ⟨_, rfl, .inr rfl⟩

theorem acquire_waits {c : Client} {id : EntryId} {e : Entry} (he : c.entry? id = some e)
    (k : TaskId) (forced : Bool) :
    ∃ w, (c.acquire k id forced).2 = .waiting w [] ∧ w.asGranted = .granted id forced := by
  simp only [acquire, he]
  split
  · exact ⟨_, rfl, rfl⟩
  · exact ⟨_, rfl, rfl⟩

theorem rests_poll {c d : Client} {n : Next} {id : EntryId} (hd : d.entry? id = c.entry? id)
    (hn : n = .poll id ∨ ∃ token, token ∉ c.cancelled ∧ n = .started id token) :
    c.Rests n (d.poll id).2 := by
  unfold poll
  split
  · refine .done ?_
    rcases hn with rfl | ⟨token, -, rfl⟩ <;> rintro m ⟨⟩
    rfl
  · rename_i e he
    exact .poll (hd.symm.trans he) hn

theorem rests_attempt {c : Client} {n : Next} {d : Delivery} (hd : n.delivers = true)
    (hn : (n.entry? = none ∧ d.entry ∈ c.registry.map (·.2)) ∨ n = .attempt d) :
    c.Rests n (c.attempt d).2 := by
  have hdone : c.Rests n .done := .done fun m hm => by
    rcases hn with ⟨hn, -⟩ | rfl
    · cases hn.symm.trans (Next.entry?_of_timer? hm)
    · cases hm
  unfold attempt
  split
  · exact hdone
  · rename_i e he
    dsimp only
    split
    · exact hdone
    · split
      · exact hdone
      · split
        · exact hdone
        · exact .submission he hd hn

theorem rests_submit {c : Client} {n : Next} (hd : n.delivers = true) (hn : n.entry? = none)
    (result : JobResult) :
    c.Rests n (c.submit result).2 := by
  unfold submit
  split
  · exact .done fun m hm => nomatch hn.symm.trans (Next.entry?_of_timer? hm)
  · rename_i id howner
    exact rests_attempt hd (.inl ⟨hn, List.mem_of_find?_eq_some howner⟩)

theorem rests_perform (c : Client) (k : TaskId) (n : Next) : c.Rests n (c.perform k n).2 := by
  cases n with
  | start id =>
    have hp := acquire_progress (c.retime id (some .poll)) k id false
    rw [perform, beginStart_eq]
    dsimp only
    split <;> rename_i heq <;> rw [heq] at hp
    · exact .done nofun
    · obtain hp | ⟨_, hp, hw⟩ := hp
      · cases hp
      · obtain ⟨rfl, rfl⟩ := Progress.waiting.inj hp
        exact .start hw
  | started id token =>
    rw [perform]
    split
    · exact .done (by rintro m ⟨⟩; rfl)
    · rename_i live
      have live : token ∉ c.cancelled := by simpa [isCancelled] using live
      split
      · exact rests_poll rfl (.inr ⟨token, live, rfl⟩)
      · exact rests_poll rfl (.inr ⟨token, live, rfl⟩)
  | refresh id forced =>
    rw [perform]
    obtain hp | ⟨w, hp, hw⟩ := acquire_progress c k id forced <;> rw [hp]
    · exact .done nofun
    · exact .refresh hw
  | poll id => exact rests_poll rfl (.inl rfl)
  | enqueue serverId jobs => exact .done nofun
  | submit result => exact rests_submit rfl rfl result
  | attempt d => exact rests_attempt rfl (.inr rfl)
  | execute job =>
    rw [perform, execute]
    split
    · exact rests_submit rfl rfl _
    · exact .page
  | beginTimer id token => exact .beginTimer
  | timer id token ticker => exact .timer
  | beginPause id token delay name => exact .beginPause
  | beginDriver driver => exact .beginDriver

section

variable {c : Client} {k : TaskId} {n : Next} {rest : List Next}

theorem Sound.step (h : (c.suspend k .turn (n :: rest)).Sound) {d : Client} (q : Quiet c d)
    {v : Wait} {l : List Next}
    (known : ∀ id ∈ Task.entries ⟨k, v, l⟩, n.entry? = some id ∨ id < c.entries.length)
    (sub : (Task.timers ⟨k, v, l⟩).Sublist n.timer?.toList) :
    (d.suspend k v (l ++ rest)).Sound := by
  refine (h.quiet (q.suspend k .turn (n :: rest))).resuspend ?_ ?_
  · intro id hid
    rw [q.size]
    simp only [Task.entries, List.filterMap_append, ← List.append_assoc] at hid
    rcases List.mem_append.1 hid with hid | hid
    · refine (known id hid).elim (fun hn => h.known_of_suspend ?_) (·)
      simp [Task.entries, hn]
    · refine h.known_of_suspend (List.mem_append_right _ ?_)
      exact ((List.sublist_cons_self n rest).filterMap _).subset hid
  · have := sub.append_right (rest.filterMap Next.timer?)
    simpa [Task.timers, Wait.timer?, filterMap_cons_toList] using this

theorem Sound.done (h : (c.suspend k .turn (n :: rest)).Sound) {d : Client} (q : Quiet c d) :
    (d.suspend k .turn rest).Sound :=
  h.step q (l := []) (by simp [Task.entries, Wait.entry?]) (by simp [Task.timers, Wait.timer?])

theorem Sound.waiting (h : (c.suspend k .turn (n :: rest)).Sound) {d : Client} (q : Quiet c d)
    {v : Wait} (known : ∀ id, v.entry? = some id → n.entry? = some id ∨ id < c.entries.length)
    (sub : v.timer? = none) : (d.suspend k v rest).Sound := by
  refine h.step q (l := []) ?_ (by simp [Task.timers, sub])
  simpa [Task.entries, eq_comm] using known

/-- No task comes by the token of a resume, nor does it lose it, when it does something. -/
theorem Rests.resume_iff {p : Progress} (h : c.Rests n p) {m : Timer} (hm : m.kind = .resume) :
    m ∈ p.timers ↔ n.timer? = some m := by
  have hpoll : ∀ id token, (⟨.poll, id, token⟩ : Timer) ≠ m := fun id token he => by
    simp [← he] at hm
  have hnot : ∀ id token, m ≠ ⟨.poll, id, token⟩ := fun id token => (hpoll id token).symm
  cases h with
  | done hn => exact iff_of_false List.not_mem_nil fun he => by simp [hn m he] at hm
  | refresh hw => rcases hw with rfl | rfl <;> simp [Progress.timers, Wait.timer?, Next.timer?]
  | start hw => rcases hw with rfl | rfl <;> simp [Progress.timers, Wait.timer?, Next.timer?, hnot]
  | poll _ hn =>
    rcases hn with rfl | ⟨token, -, rfl⟩ <;>
      simp [Progress.timers, Wait.timer?, Next.timer?, hpoll]
  | submission _ hd =>
    cases n with
    | submit | attempt | execute => simp [Progress.timers, Wait.timer?, Next.timer?]
    | _ => cases hd
  | _ => simp [Progress.timers, Wait.timer?, Next.timer?, eq_comm]

theorem Sound.beginStart {id : EntryId} (h : (c.suspend k .turn (.start id :: rest)).Sound) :
    ((c.retime id (some .poll)).suspend k .turn (.started id c.issued.length :: rest)).Sound := by
  have hid : id < c.entries.length := h.known_of_suspend (by simp [Task.entries, Next.entry?])
  obtain ⟨e, he⟩ := exists_entry? hid
  have hs : ((c.retime id (some .poll)).suspend k .turn (.start id :: rest)).Sound :=
    h.retime hid (some .poll)
  refine hs.takeUp ?_ (m := ⟨.poll, id, c.issued.length⟩) (h.spare_retime he .poll) ?_
  · intro j hj
    refine hs.known_of_suspend ?_
    simpa [Task.entries, Next.entry?] using hj
  · simp [Task.timers, Wait.timer?, Next.timer?, filterMap_cons_toList]

theorem Sound.swap {w : Wait} {next : List Next} {m : Next}
    (h : ((c.suspend k w next).spawn [m]).Sound) : ((c.spawn [m]).suspend k w next).Sound := by
  have hp : ((c.spawn [m]).suspend k w next).tasks.Perm ((c.suspend k w next).spawn [m]).tasks := by
    simp only [suspend, Client.spawn, List.append_assoc]
    exact List.perm_append_comm.append_left _
  refine h.transfer ⟨?_, ?_⟩ (fun _ => rfl) rfl rfl rfl rfl (hp.flatMap_right _) ?_
  · rw [(hp.map _).nodup_iff]
    exact h.numbered.nodup
  · exact fun t ht => h.numbered.below t (hp.mem_iff.1 ht)
  · exact fun id hid => h.known id ((hp.flatMap_right _).mem_iff.1 hid)

/-- The token of a task that is not cancelled is spare when the task gives it away. -/
theorem Sound.spare_of_dropped {w v : Wait} {next more : List Next} {m : Timer}
    (h : (c.suspend k w next).Sound) (hm : Task.timers ⟨k, w, next⟩ = m :: Task.timers ⟨k, v, more⟩)
    (live : m.token ∉ c.cancelled) : (c.suspend k v more).Spare m := by
  have hmem : m ∈ (c.suspend k w next).timers := by simp [hm]
  refine ⟨?_, h.owned m hmem, (h.live m hmem).resolve_left live⟩
  have hs := h.single
  have hp : ((c.suspend k w next).timers.map (·.token)).Perm
      (m.token :: (c.suspend k v more).timers.map (·.token)) := by
    simp only [timers_suspend, hm, List.map_append, List.map_cons]
    exact List.perm_middle
  rw [hp.nodup_iff] at hs
  exact (List.nodup_cons.1 hs).1

theorem Sound.beginTimer {id : EntryId} {token : Token}
    (h : (c.suspend k .turn (.started id token :: rest)).Sound) (live : token ∉ c.cancelled) :
    ((c.spawn [.beginTimer id token]).suspend k .turn (.poll id :: rest)).Sound := by
  have hid : id < c.entries.length := h.known_of_suspend (by simp [Task.entries, Next.entry?])
  have hs : (c.suspend k .turn (.poll id :: rest)).Sound := by
    refine h.step (.refl c) (l := [.poll id]) ?_ (by simp [Task.timers, Wait.timer?, Next.timer?])
    simp [Task.entries, Wait.entry?, Next.entry?]
  refine (hs.spawn ?_ ?_).swap
  · rintro j ⟨⟩
    exact hid
  · rintro m ⟨⟩
    refine h.spare_of_dropped ?_ live
    simp [Task.timers, Wait.timer?, Next.timer?, filterMap_cons_toList]

theorem Sound.rests (h : (c.suspend k .turn (n :: rest)).Sound) {d : Client} (q : Quiet c d)
    {p : Progress} (hp : c.Rests n p) (hn : ∀ id, n ≠ .start id) : (d.resting k rest p).Sound := by
  cases hp with
  | done => exact h.done q
  | refresh hw =>
    rcases hw with rfl | rfl
    · exact h.waiting q (by rintro j ⟨⟩; exact .inl rfl) rfl
    · exact h.waiting q (by rintro j ⟨⟩; exact .inl rfl) rfl
  | start => exact absurd rfl (hn _)
  | poll he => exact h.waiting q (by rintro j ⟨⟩; exact .inr (entry?_lt he)) rfl
  | submission he => exact h.waiting q (by rintro j ⟨⟩; exact .inr (entry?_lt he)) rfl
  | page => exact h.waiting q (by rintro j ⟨⟩) rfl
  | beginTimer =>
    refine h.step q (l := []) ?_ ?_ <;>
      simp [Task.entries, Task.timers, Wait.entry?, Wait.timer?, Next.entry?, Next.timer?]
  | timer =>
    refine h.step q (l := []) ?_ ?_ <;>
      simp [Task.entries, Task.timers, Wait.entry?, Wait.timer?, Next.entry?, Next.timer?]
  | beginPause =>
    refine h.step q (l := []) ?_ ?_ <;>
      simp [Task.entries, Task.timers, Wait.entry?, Wait.timer?, Next.entry?, Next.timer?]
  | beginDriver => exact h.waiting q (by rintro j ⟨⟩) rfl

theorem Sound.performs (h : (c.suspend k .turn (n :: rest)).Sound) :
    c.Performs n (c.perform k n).1 :=
  performs_perform (c := c) h.registered k n

theorem Sound.perform (h : (c.suspend k .turn (n :: rest)).Sound) :
    ((c.perform k n).1.resting k rest (c.perform k n).2).Sound := by
  have hp := rests_perform c k n
  have hd := h.performs
  generalize c.perform k n = a at hp hd
  obtain ⟨d, p⟩ := a
  cases hd with
  | quiet hn q => exact h.rests q hp hn
  | timer live => exact (h.beginTimer live).rests (.refl _) hp.poll_of_started nofun
  | start q =>
    have hs := h.beginStart
    cases hp with
    | done => exact hs.done q
    | start hw =>
      refine hs.step q (l := [.started _ c.issued.length]) ?_ ?_
      · rcases hw with rfl | rfl <;> simp [Task.entries, Wait.entry?, Next.entry?]
      · rcases hw with rfl | rfl <;> simp [Task.timers, Wait.timer?, Next.timer?]
    | poll _ hn => simp at hn
    | submission _ hd => cases hd

end

theorem Sound.run {k : TaskId} {next : List Next} {c : Client}
    (h : (c.suspend k .turn next).Sound) : (run k next c).Sound := by
  -- the task is thought of as one that waits for its turn with the rest of what it has to do
  induction next generalizing c with
  | nil => exact h.of_suspend
  | cons n rest ih =>
    have hp := h.perform
    rw [Client.run]
    generalize c.perform k n = a at hp
    obtain ⟨d, p⟩ := a
    cases p with
    | done => exact ih hp
    | waiting w more => exact hp

theorem Sound.follow {k : TaskId} {course : Course} {c : Client}
    (h : (c.resumed k course).Sound) : (c.follow k course).Sound := by
  cases course with
  | goesOn next => exact h.run
  | waits w next => exact h
  | ends => exact h

end Harvest.Sync.Client
