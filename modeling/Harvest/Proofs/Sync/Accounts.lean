import Harvest.Proofs.Sync.Steps
/-!
What acts change of the accounts of entries. An error that a task is told of is counted against an
entry, and may pause it; a start has an entry poll. Nothing else that a task does touches accounts.
-/

namespace Harvest.Sync

/-- An account under a new token, or under none. -/
def Account.retimed (a : Account) : Option (Timer.Kind × Token) → Account
  | none => { a with pollToken := none, resumeToken := none, status := .idle }
  | some (.poll, k) => { a with pollToken := some k, resumeToken := none, status := .polling }
  | some (.resume, k) => { a with pollToken := none, resumeToken := some k, status := .paused }

@[simp] theorem Account.errors_retimed (a : Account) (t : Option (Timer.Kind × Token)) :
    (a.retimed t).errors = a.errors := by
  match t with
  | none => rfl
  | some (.poll, k) => rfl
  | some (.resume, k) => rfl

def Account.failed (a : Account) : Account := { a with errors := a.errors + 1 }

theorem Entry.account_retimed (e : Entry) (t : Option (Timer.Kind × Token)) :
    (e.retimed t).account = e.account.retimed t := by
  match t with
  | none => rfl
  | some (.poll, k) => rfl
  | some (.resume, k) => rfl

namespace Client

theorem account?_retime (c : Client) (id j : EntryId) (kind : Option Timer.Kind) :
    (c.retime id kind).account? j = (c.account? j).map fun a =>
      if id = j then a.retimed (kind.map fun k => (k, c.issued.length)) else a := by
  simp only [account?, entry?_retime, Option.map_map]
  congr 1
  funext e
  by_cases h : id = j <;> simp [h, Entry.account_retimed]

theorem account?_countError (c : Client) (id j : EntryId) :
    (c.countError id).account? j =
      (c.account? j).map fun a => if id = j then a.failed else a := by
  simp only [account?, countError, entry?_modifyEntry, Option.map_map]
  congr 1
  funext e
  by_cases h : id = j <;> simp [h, Entry.account, Account.failed]

theorem account?_pause (c : Client) (id j : EntryId) (next : List Next) :
    (c.pause id next).1.account? j = (c.retime id (some .resume)).account? j := by
  rw [pause_eq]
  split
  · rfl
  · split <;> rfl

/-- What is fixed but for registrations. -/
def fixed (c : Client) : Settings × List (String × EntryId) := (c.settings, c.registry)

theorem Quiet.fixed {c d : Client} (h : Quiet c d) : d.fixed = c.fixed := by
  rw [Client.fixed, h.settings, h.registry]
  rfl

theorem fixed_pause (c : Client) (id : EntryId) (next : List Next) :
    (c.pause id next).1.fixed = c.fixed := by
  rw [pause_eq]
  split
  · rfl
  · split <;> rfl

/-! Errors -/

/-- The entry that an error is counted against when a task is told something: that of a poll which
    fails, or of the last submission of a result if the version is out of date. -/
def fault? (c : Client) (t : Task) (s : Signal) : Option EntryId :=
  match t.wait, s with
  | .permission id server, .permitted answer =>
    match answer.bind (Coordinator.jobsRequest c.settings.userAgent server) with
    | .error _ => some id
    | .ok _ => none
  | .jobs id _ r, .reply reply =>
    match Coordinator.jobs c.settings.requestTimeout r reply with
    | .error _ => some id
    | .ok _ => none
  | .submission d _ _ _, .reply reply =>
    match Coordinator.submission c.settings.requestTimeout reply with
    | .ok .preconditionFailed => if d.attempt < c.settings.attempts then none else some d.entry
    | _ => none
  | _, _ => none

/-- Whether an error of an entry pauses it. Those of submissions do, and every so many others. -/
def Pauses (c : Client) (t : Task) (id : EntryId) : Prop :=
  match t.wait with
  | .submission .. => True
  | _ => ((c.entry? id).map (·.errors + 1)).getD 0 % c.settings.pauseThreshold = 0

/-- What a task does that is told something, as far as accounts are concerned. -/
inductive Told (c : Client) (t : Task) (s : Signal) : Client × Course → Prop
  | quiet {d : Client} {course : Course} : c.fault? t s = none → Quiet c d →
      c.Told t s (d, course)
  | counted {id : EntryId} {d : Client} : c.fault? t s = some id → ¬ c.Pauses t id →
      Quiet (c.countError id) d → c.Told t s (d, .goesOn t.next)
  | paused {id : EntryId} {d : Client} : c.fault? t s = some id → c.Pauses t id →
      Quiet (c.countError id) d → c.Told t s (d.pause id t.next)

theorem errors_countError (c : Client) (id : EntryId) :
    ((Client.entry? (c.countError id) id).map (·.errors)).getD 0 =
      ((c.entry? id).map (·.errors + 1)).getD 0 := by
  rw [countError, entry?_modifyEntry, Option.map_map]
  simp [Function.comp_def]

theorem told_pollFailed {c : Client} {t : Task} {s : Signal} {id : EntryId} (server : Server)
    (fault : Error) (hf : c.fault? t s = some id)
    (hp : c.Pauses t id ↔
      ((c.entry? id).map (·.errors + 1)).getD 0 % c.settings.pauseThreshold = 0) :
    c.Told t s (c.pollFailed id server fault t.next) := by
  have q : Quiet (c.countError id) ((c.countError id).log
      (.pollFailed server fault (((c.entry? id).map (·.errors + 1)).getD 0))) :=
    (Quiet.refl _).reveal _
  rw [pollFailed, errors_countError]
  split
  · rename_i h
    exact .paused hf (hp.2 h) q
  · rename_i h
    exact .counted hf (fun hn => h (hp.1 hn)) q

section

variable {c : Client} (n : c.Numbered) (r : c.Registered)
include n r

theorem told_of_heed {t : Task} {s : Signal} {a : Client × Course} (h : c.heed t s = some a) :
    c.Told t s a := by
  cases heeds_of_heed h with
  | turn => exact .quiet rfl (.refl c)
  | @granted k id forced next => exact .quiet rfl ((Quiet.refl c).refresh n id forced next)
  | resources => exact .quiet rfl ((Quiet.refl c).fetched n ..)
  | @permission k id server answer next =>
    unfold permitted
    split
    · rename_i fault hr
      exact told_pollFailed server fault (by simp only [fault?, hr]) .rfl
    · rename_i req hr
      exact .quiet (by simp only [fault?, hr]) ((Quiet.refl c).reveal _)
  | @jobs k id server req reply next =>
    unfold polled
    split
    · rename_i fault hr
      exact told_pollFailed server fault (by simp only [fault?, hr]) .rfl
    · rename_i answer hr
      have hf : c.fault? ⟨k, .jobs id server req, next⟩ (.reply reply) = none := by
        simp only [fault?, hr]
      dsimp only
      split
      · exact .quiet hf (((Quiet.refl c).reveal _).reveal _)
      · exact .quiet hf ((Quiet.refl c).reveal _)
  | @submission k d server hash req reply next =>
    have hf : ∀ x, Coordinator.submission c.settings.requestTimeout reply = x →
        c.fault? ⟨k, .submission d server hash req, next⟩ (.reply reply) =
          match x with
          | .ok .preconditionFailed =>
            if d.attempt < c.settings.attempts then none else some d.entry
          | _ => none := by
      rintro x rfl
      rfl
    unfold delivered
    dsimp only
    split <;> rename_i ho <;> have hf := hf _ ho
    · exact .quiet hf ((Quiet.refl c).reveal _)
    · exact .quiet hf ((Quiet.refl c).reveal _)
    · exact .quiet hf ((Quiet.refl c).reveal _)
    · split <;> rename_i ha <;> simp only [ha, if_true, if_false] at hf
      · exact .quiet hf ((Quiet.refl c).reveal _)
      · exact .paused hf trivial ((Quiet.refl (c.countError d.entry)).reveal _)
  | page => exact .quiet rfl (.refl c)
  | tick => exact .quiet rfl (.refl c)
  | resume => exact .quiet rfl ((Quiet.refl c).reveal _)
  | drive hc => exact .quiet rfl ((Quiet.refl c).withQueue r _)
  | tickCancelled => exact .quiet rfl (.refl c)
  | resumeCancelled => exact .quiet rfl (.refl c)

end

/-- What an account becomes when a task is told something. -/
theorem Told.account {c : Client} {t : Task} {s : Signal} {a : Client × Course}
    (h : c.Told t s a) (id : EntryId) :
    (c.fault? t s ≠ some id → a.1.account? id = c.account? id) ∧
    (c.fault? t s = some id → ¬ c.Pauses t id →
      a.1.account? id = (c.account? id).map Account.failed) ∧
    (c.fault? t s = some id → c.Pauses t id → a.1.account? id = (c.account? id).map fun a =>
      a.failed.retimed (some (.resume, c.issued.length))) := by
  cases h with
  | quiet hf q => simp [hf, q.account]
  | @counted j _ hf hp q =>
    rw [q.account, account?_countError, hf]
    by_cases hj : j = id
    · subst hj
      simp [hp]
    · simp [hj]
  | @paused j b hf hp q =>
    have hi : b.issued.length = c.issued.length := by rw [q.issued]; rfl
    rw [account?_pause, account?_retime, q.account, account?_countError, hf, hi]
    by_cases hj : j = id
    · subst hj
      simp [hp, Function.comp_def]
    · simp [hj]

theorem Told.fixed {c : Client} {t : Task} {s : Signal} {a : Client × Course}
    (h : c.Told t s a) : a.1.fixed = c.fixed := by
  cases h with
  | quiet _ q => exact q.fixed
  | counted _ _ q => exact q.fixed
  | paused _ _ q => exact (fixed_pause ..).trans q.fixed

/-! Starts -/

theorem Performs.account {c d : Client} {n : Next} (h : c.Performs n d) (id : EntryId) :
    (n ≠ .start id → d.account? id = c.account? id) ∧
    (n = .start id → d.account? id =
      (c.account? id).map fun a => a.retimed (some (.poll, c.issued.length))) := by
  cases h with
  | @start j d q =>
    rw [q.account, account?_retime]
    by_cases hj : j = id <;> simp [hj]
  | timer => exact ⟨fun _ => rfl, nofun⟩
  | quiet hn q => exact ⟨fun _ => q.account id, fun hs => absurd hs (hn id)⟩

theorem account?_run {k : TaskId} {next : List Next} {c : Client}
    (h : (c.suspend k .turn next).Sound) {id : EntryId} (hn : .start id ∉ doing k next c) :
    (run k next c).account? id = c.account? id := by
  induction next generalizing c with
  | nil => rfl
  | cons n rest ih =>
    have hp := h.perform
    have ha := (h.performs.account id).1
    rw [doing] at hn
    rw [run]
    generalize c.perform k n = a at hp ha hn
    obtain ⟨d, p⟩ := a
    have hne : n ≠ .start id := fun he => hn (he ▸ List.mem_cons_self)
    cases p with
    | done => exact (ih hp fun hm => hn (List.mem_cons_of_mem n hm)).trans (ha hne)
    | waiting w more => exact ha hne

/-- A start in the course of what a task does leaves the entry polling, and its errors alone. -/
theorem account?_run_start {k : TaskId} {next : List Next} {c : Client}
    (h : (c.suspend k .turn next).Sound) {id : EntryId} (hs : .start id ∈ doing k next c) :
    ∃ token, (run k next c).account? id =
      (c.account? id).map fun a => a.retimed (some (.poll, token)) := by
  induction next generalizing c with
  | nil => cases hs
  | cons n rest ih =>
    have hp := h.perform
    obtain ⟨hne, heq⟩ := h.performs.account id
    rw [doing] at hs
    rw [run]
    generalize c.perform k n = a at hp hne heq hs
    obtain ⟨d, p⟩ := a
    cases p with
    | done =>
      by_cases hd : .start id ∈ doing k rest d
      · obtain ⟨token, ht⟩ := ih hp hd
        refine ⟨token, ht.trans ?_⟩
        by_cases hn : n = .start id
        · rw [show d.account? id = _ from heq hn, Option.map_map]
          rfl
        · rw [show d.account? id = _ from hne hn]
      · have hn : n = .start id := by
          rcases List.mem_cons.1 hs with hs | hs
          · exact hs.symm
          · exact absurd hs hd
        exact ⟨_, (account?_run hp hd).trans (heq hn)⟩
    | waiting w more => exact ⟨_, heq (List.mem_singleton.1 hs).symm⟩

theorem account?_run_of_ne {k : TaskId} {next : List Next} {c : Client}
    (h : (c.suspend k .turn next).Sound) {id : EntryId} {y : Account}
    (hy : (run k next c).account? id = some y) (hs : y.status ≠ .polling) :
    .start id ∉ doing k next c ∧ c.account? id = some y := by
  by_cases hd : .start id ∈ doing k next c
  · obtain ⟨token, ht⟩ := account?_run_start h hd
    obtain ⟨a, -, rfl⟩ := Option.map_eq_some_iff.1 (ht.symm.trans hy)
    exact absurd rfl hs
  · exact ⟨hd, (account?_run h hd).symm.trans hy⟩

theorem account?_follow_of_ne {c : Client} {k : TaskId} {course : Course}
    (h : (c.resumed k course).Sound) {id : EntryId} {y : Account}
    (hy : (c.follow k course).account? id = some y) (hs : y.status ≠ .polling) :
    (∀ next, course = .goesOn next → .start id ∉ doing k next c) ∧ c.account? id = some y := by
  cases course with
  | goesOn next =>
    obtain ⟨hd, ha⟩ := account?_run_of_ne h hy hs
    exact ⟨by simpa using hd, ha⟩
  | waits w next => exact ⟨nofun, hy⟩
  | ends => exact ⟨nofun, hy⟩

/-- A task that is told something leaves an account as it becomes then, unless it goes on to start
    the entry. -/
theorem account?_wake_of_heed {c : Client} (h : c.Sound) {t : Task} (ht : t ∈ c.tasks) {s : Signal}
    {b : Client × Course} (heq : (c.dropTask t.id).heed t s = some b) {id : EntryId}
    (hn : .start id ∉ c.doneBy (.wake t s)) : (c.wake t s).account? id = b.1.account? id := by
  have hs := (h.resume ht).heed heq
  rw [doneBy, heq] at hn
  rw [wake, heq]
  obtain ⟨d, course⟩ := b
  cases course with
  | goesOn next => exact account?_run hs hn
  | waits w next => rfl
  | ends => rfl

/-! What rouses a server -/

/-- What has an idle entry be idle no longer: an error that pauses it, or a start. -/
inductive Rouses (c : Client) (id : EntryId) : Act → Prop
  | failure {t : Task} {s : Signal} : c.fault? t s = some id → c.Pauses t id →
      c.Rouses id (.wake t s)
  | start {a : Act} : .start id ∈ c.doneBy a → c.Rouses id a

theorem idle_run {c : Client} {k : TaskId} {next : List Next} (h : (c.suspend k .turn next).Sound)
    {id : EntryId} {x : Account} (hx : c.account? id = some x) :
    ∃ y, (run k next c).account? id = some y ∧
      (y.status = .idle ↔ x.status = .idle ∧ .start id ∉ doing k next c) := by
  by_cases hs : .start id ∈ doing k next c
  · obtain ⟨token, ht⟩ := account?_run_start h hs
    rw [hx] at ht
    exact ⟨_, ht, by simp [Account.retimed, hs]⟩
  · exact ⟨x, (account?_run h hs).trans hx, by simp [hs]⟩

theorem idle_follow {c : Client} {k : TaskId} {course : Course} (h : (c.resumed k course).Sound)
    {id : EntryId} {x : Account} (hx : c.account? id = some x) :
    ∃ y, (c.follow k course).account? id = some y ∧ (y.status = .idle ↔
      x.status = .idle ∧ ∀ next, course = .goesOn next → .start id ∉ doing k next c) := by
  cases course with
  | goesOn next =>
    obtain ⟨y, hy, hidle⟩ := idle_run h hx
    exact ⟨y, hy, by simpa using hidle⟩
  | waits w next => exact ⟨x, hx, by simp⟩
  | ends => exact ⟨x, hx, by simp⟩

theorem fault?_of_heed_none {c : Client} {t : Task} {s : Signal} (h : c.heed t s = none) :
    c.fault? t s = none := by
  unfold fault?
  split <;> rename_i hw <;> first | rfl | (simp only [heed, hw] at h; cases h)

theorem idle_wake {c : Client} (h : c.Sound) {t : Task} (ht : t ∈ c.tasks) (s : Signal)
    {id : EntryId} {x : Account} (hx : c.account? id = some x) (idle : x.status = .idle) :
    ∃ y, (c.wake t s).account? id = some y ∧ (y.status = .idle ↔ ¬ c.Rouses id (.wake t s)) := by
  have hr : (c.dropTask t.id).Registered := h.registered
  have hn : (c.dropTask t.id).Numbered := (h.resume ht).numbered.of_suspend
  rw [wake]
  cases heq : (c.dropTask t.id).heed t s with
  | none =>
    refine ⟨x, hx, iff_of_true idle ?_⟩
    rintro (⟨hf, -⟩ | hs)
    · cases (fault?_of_heed_none heq).symm.trans hf
    · simp [doneBy, heq] at hs
  | some a =>
    obtain ⟨hsame, hcount, hpause⟩ := (told_of_heed hn hr heq).account id
    have hd : ∃ z, a.1.account? id = some z ∧
        (z.status = .idle ↔ ¬ (c.fault? t s = some id ∧ c.Pauses t id)) := by
      by_cases hf : c.fault? t s = some id
      · by_cases hp : c.Pauses t id
        · exact ⟨_, (hpause hf hp).trans (congrArg _ hx), by simp [Account.retimed, hf, hp]⟩
        · exact ⟨_, (hcount hf hp).trans (congrArg _ hx), by simp [Account.failed, idle, hp]⟩
      · exact ⟨x, (hsame hf).trans hx, by simp [idle, hf]⟩
    obtain ⟨z, hz, hidle⟩ := hd
    obtain ⟨y, hy, hy'⟩ := idle_follow ((h.resume ht).heed heq) hz
    refine ⟨y, hy, hy'.trans ?_⟩
    have hdone : (∀ next, a.2 = .goesOn next → .start id ∉ doing t.id next a.1) ↔
        .start id ∉ c.doneBy (.wake t s) := by
      obtain ⟨d, course⟩ := a
      cases course <;> simp [doneBy, heq]
    rw [hidle, hdone, ← not_or]
    refine not_congr ⟨?_, ?_⟩
    · rintro (hf | hs)
      · exact .failure hf.1 hf.2
      · exact .start hs
    · rintro (⟨hf, hp⟩ | hs)
      · exact .inl ⟨hf, hp⟩
      · exact .inr hs

theorem idle_stopEntry {c : Client} {id : EntryId} {x : Account} (hx : c.account? id = some x)
    (j : EntryId) (idle : id ≠ j → x.status = .idle) :
    ∃ y, (c.stopEntry j).account? id = some y ∧ y.status = .idle := by
  rw [stopEntry_eq, account?_retime, hx]
  refine ⟨_, rfl, ?_⟩
  by_cases hj : j = id
  · simp [hj, Account.retimed]
  · simpa [hj] using idle (Ne.symm hj)

theorem idle_stopEntries {ids : List EntryId} {c : Client} {id : EntryId} {x : Account}
    (hx : c.account? id = some x) (idle : id ∉ ids → x.status = .idle) :
    ∃ y, (stopEntries ids c).account? id = some y ∧ y.status = .idle := by
  induction ids generalizing c x with
  | nil => exact ⟨x, hx, idle List.not_mem_nil⟩
  | cons j ids ih =>
    by_cases hids : id ∈ ids
    · have : ∃ y, (c.stopEntry j).account? id = some y := by
        rw [stopEntry_eq, account?_retime, hx]
        exact ⟨_, rfl⟩
      obtain ⟨y, hy⟩ := this
      exact ih hy fun hn => absurd hids hn
    · obtain ⟨y, hy, hidle⟩ := idle_stopEntry hx j fun hj => idle (by simp [hj, hids])
      exact ih hy fun _ => hidle

theorem account?_addEntry {c : Client} {id : EntryId} {x : Account} (hx : c.account? id = some x)
    (s : Server) (registry : List (String × EntryId)) :
    { c with entries := c.entries ++ [Entry.new s], registry := registry }.account? id =
      some x := by
  obtain ⟨e, he, rfl⟩ := Option.map_eq_some_iff.1 hx
  have ha : (c.entries ++ [Entry.new s])[id]? = some e := by
    rw [List.getElem?_append_left (entry?_lt he)]
    exact he
  exact congrArg (Option.map Entry.account) ha

theorem account?_addServer {c : Client} {id : EntryId} {x : Account} (hx : c.account? id = some x)
    (s : Server) : (c.addServer s).account? id = some x := by
  unfold addServer
  dsimp only
  split <;> exact account?_addEntry hx s _

theorem Orders.rouses_iff {c : Client} {a : Act} {l : List Next} (h : c.Orders a l)
    {id : EntryId} : c.Rouses id a ↔ .start id ∈ l := by
  constructor
  · rintro (⟨-, -⟩ | hs)
    · exact absurd rfl (h.host _ _)
    · exact h.done ▸ hs
  · exact fun hs => .start (h.done ▸ hs)

/-- Apart from errors that pause an idle entry and starts of it, acts leave it idle. -/
theorem idle_after {c : Client} (h : c.Sound) {a : Act} (p : c.Permits a) {id : EntryId}
    {x : Account} (hx : c.account? id = some x) (idle : x.status = .idle) :
    ∃ y, (c.after a).account? id = some y ∧ (y.status = .idle ↔ ¬ c.Rouses id a) := by
  have hs := step_after h p
  generalize c.after a = d at hs
  cases hs with
  | wake ht => exact idle_wake h ht _ hx idle
  | addServer s =>
    have ho : c.Orders (.addServer s) [] := ⟨by simp, rfl⟩
    exact ⟨x, account?_addServer hx s, by simp [ho.rouses_iff, idle]⟩
  | execute job =>
    have ho : c.Orders (.execute job) [] := ⟨by simp, rfl⟩
    exact ⟨x, hx, by simp [ho.rouses_iff, idle]⟩
  | still ho q => exact ⟨x, (q.account id).trans hx, by simp [ho.rouses_iff, idle]⟩
  | @stops _ queue ids ho =>
    have hx : { c with queue := queue }.account? id = some x := hx
    have hs : ∃ y, (stopEntries ids { c with queue := queue }).account? id = some y ∧
        y.status = .idle := idle_stopEntries hx fun _ => idle
    obtain ⟨y, hy, hidle⟩ := hs
    exact ⟨y, hy, by simp [ho.rouses_iff, hidle]⟩
  | begins ho _ q _ hs =>
    obtain ⟨y, hy, hiff⟩ := idle_run hs ((q.account id).trans hx)
    rw [ho.rouses_iff]
    exact ⟨y, hy, hiff.trans (and_iff_right idle)⟩

end Client
end Harvest.Sync
