import Harvest.Proofs.Sync.Halting
import Harvest.Proofs.Sync.Rounds
/-!
The errors of an entry. Polls that fail and submissions that are given up are counted against it,
one by one, and nothing else is. A submission that is given up pauses it, and a poll that fails does
so if the number of errors is then a multiple of the threshold.
-/

namespace Harvest.Sync.Client

/-- The entry whose poll fails in an act: the host does not permit it, its request cannot be built,
    or it is not answered with jobs. -/
def failedPolls (c : Client) : Act → List EntryId
  | .wake ⟨_, .permission id server, _⟩ (.permitted answer) =>
    match answer.bind (Coordinator.jobsRequest c.settings.userAgent server) with
    | .error _ => [id]
    | .ok _ => []
  | .wake ⟨_, .jobs id _ r, _⟩ (.reply reply) =>
    match Coordinator.jobs c.settings.requestTimeout r reply with
    | .error _ => [id]
    | .ok _ => []
  | _ => []

/-- The entry to which the submission of a result is given up in an act: its version was out of date
    as often as it may be. -/
def exhausted (c : Client) : Act → List EntryId
  | .wake ⟨_, .submission d _ _ _, _⟩ (.reply reply) =>
    match Coordinator.submission c.settings.requestTimeout reply with
    | .ok .preconditionFailed => if d.attempt < c.settings.attempts then [] else [d.entry]
    | _ => []
  | _ => []

/-- The errors of an act. -/
def faults (c : Client) (a : Act) : List EntryId := c.failedPolls a ++ c.exhausted a

def errors (c : Client) (id : EntryId) : Nat := ((c.account? id).map (·.errors)).getD 0

section

variable {c d : Client} {id : EntryId} {t : Task} {s : Signal}

theorem faults_wake (c : Client) (t : Task) (s : Signal) :
    c.faults (.wake t s) = (c.fault? t s).toList := by
  obtain ⟨k, w, next⟩ := t
  cases w with
  | permission i server =>
    cases s with
    | permitted answer =>
      simp only [faults, failedPolls, exhausted, fault?]
      cases answer.bind (Coordinator.jobsRequest c.settings.userAgent server) <;> rfl
    | _ => rfl
  | jobs i server r =>
    cases s with
    | reply reply =>
      simp only [faults, failedPolls, exhausted, fault?]
      cases Coordinator.jobs c.settings.requestTimeout r reply <;> rfl
    | _ => rfl
  | submission x server hash r =>
    cases s with
    | reply reply =>
      simp only [faults, failedPolls, exhausted, fault?]
      cases Coordinator.submission c.settings.requestTimeout reply with
      | error fault => rfl
      | ok outcome =>
        cases outcome with
        | preconditionFailed => by_cases h : x.attempt < c.settings.attempts <;> simp [h]
        | _ => rfl
    | _ => rfl
  | _ => rfl

theorem fault?_of_mem (h : id ∈ c.faults (.wake t s)) : c.fault? t s = some id := by
  rw [faults_wake] at h
  exact Option.mem_toList.1 h

theorem Orders.faults {a : Act} {l : List Next} (h : c.Orders a l) : c.faults a = [] := by
  cases a with
  | wake t s => exact absurd rfl (h.host t s)
  | _ => rfl

theorem exists_wake_of_mem {a : Act} (h : id ∈ c.faults a) : ∃ t s, a = .wake t s := by
  cases a with
  | wake t s => exact ⟨t, s, rfl⟩
  | _ => cases h

theorem pauses_of_exhausted (h : id ∈ c.exhausted (.wake t s)) : c.Pauses t id := by
  obtain ⟨k, w, next⟩ := t
  cases w with
  | submission => trivial
  | _ => cases h

theorem pauses_of_failedPolls (h : id ∈ c.failedPolls (.wake t s)) {x : Account}
    (hx : c.account? id = some x) :
    c.Pauses t id ↔ (x.errors + 1) % c.settings.pauseThreshold = 0 := by
  obtain ⟨e, he, rfl⟩ := Option.map_eq_some_iff.1 hx
  obtain ⟨k, w, next⟩ := t
  cases w with
  | permission | jobs =>
    rw [Pauses, he]
    rfl
  | _ => cases h

/-! The number of errors -/

theorem errors_of_map {f : Account → Account} (hf : ∀ x, (f x).errors = x.errors)
    (h : d.account? id = (c.account? id).map f) : d.errors id = c.errors id := by
  rw [errors, h, Option.map_map, errors]
  congr 2
  funext x
  exact hf x

theorem errors_congr (h : d.account? id = c.account? id) : d.errors id = c.errors id :=
  errors_of_map (f := fun x => x) (fun _ => rfl) (by simpa using h)

theorem errors_run {k : TaskId} {next : List Next} (h : (c.suspend k .turn next).Sound) :
    (run k next c).errors id = c.errors id := by
  by_cases hs : .start id ∈ doing k next c
  · obtain ⟨token, ht⟩ := account?_run_start h hs
    exact errors_of_map (fun x => Account.errors_retimed x _) ht
  · exact errors_congr (account?_run h hs)

theorem errors_stopEntries (ids : List EntryId) (c : Client) :
    (stopEntries ids c).errors id = c.errors id := by
  induction ids generalizing c with
  | nil => rfl
  | cons j ids ih =>
    refine (ih _).trans ?_
    rw [stopEntry_eq]
    refine errors_of_map (fun x => ?_) (account?_retime c j id none)
    split <;> simp

theorem errors_addServer (c : Client) (s : Server) : (c.addServer s).errors id = c.errors id := by
  by_cases hid : id < c.entries.length
  · obtain ⟨e, he⟩ := exists_entry? hid
    have hx : c.account? id = some e.account := congrArg (Option.map Entry.account) he
    rw [errors, account?_addServer hx, errors, hx]
  · have hnone : c.entry? id = none := List.getElem?_eq_none (Nat.not_lt.1 hid)
    rw [errors, account?, entry?, entries_addServer,
      List.getElem?_append_right (Nat.not_lt.1 hid), errors, account?, hnone]
    cases hn : [Entry.new s][id - c.entries.length]? with
    | none => rfl
    | some e =>
      obtain rfl : e = Entry.new s := List.mem_singleton.1 (List.mem_of_getElem? hn)
      rfl

theorem exists_account?_of_fault? (h : c.Sound) (ht : t ∈ c.tasks) (hf : c.fault? t s = some id) :
    ∃ x, c.account? id = some x := by
  have hw := entry?_of_fault? hf
  have hid : id < c.entries.length :=
    (h.resume ht).known_of_suspend (by simp [Task.entries, hw])
  obtain ⟨e, he⟩ := exists_entry? hid
  exact ⟨e.account, congrArg (Option.map Entry.account) he⟩

theorem Told.errors {b : Client × Course} (told : c.Told t s b)
    (known : c.fault? t s = some id → ∃ x, c.account? id = some x) :
    b.1.errors id = c.errors id + (c.faults (.wake t s)).count id := by
  obtain ⟨hsame, hcount, hpause⟩ := told.account id
  rw [faults_wake]
  by_cases hf : c.fault? t s = some id
  · obtain ⟨x, hx⟩ := known hf
    have hone : b.1.errors id = x.errors + 1 := by
      by_cases hp : c.Pauses t id
      · rw [Client.errors, hpause hf hp, hx]
        simp [Account.failed]
      · rw [Client.errors, hcount hf hp, hx]
        simp [Account.failed]
    rw [hone, hf, Client.errors, hx]
    simp
  · rw [errors_congr (hsame hf), List.count_eq_zero.2 fun hm => hf (Option.mem_toList.1 hm),
      Nat.add_zero]

theorem errors_wake (h : c.Sound) (ht : t ∈ c.tasks) (s : Signal) :
    (c.wake t s).errors id = c.errors id + (c.faults (.wake t s)).count id := by
  have hdrop : (c.dropTask t.id).Sound := (h.resume ht).of_suspend
  rw [wake]
  cases heq : (c.dropTask t.id).heed t s with
  | none =>
    have hf : (c.dropTask t.id).fault? t s = none := fault?_of_heed_none heq
    have hf : c.fault? t s = none := hf
    rw [faults_wake, hf]
    rfl
  | some b =>
    have told := told_of_heed hdrop.numbered hdrop.registered heq
    have hs := (h.resume ht).heed heq
    have known : c.fault? t s = some id → ∃ x, c.account? id = some x :=
      exists_account?_of_fault? h ht
    have hb : b.1.errors id = c.errors id + (c.faults (.wake t s)).count id := told.errors known
    obtain ⟨d, course⟩ := b
    cases course with
    | goesOn next => exact (errors_run hs).trans hb
    | waits w next => exact hb
    | ends => exact hb

/-- The errors that an act brings are counted, and no others. -/
theorem errors_after (h : c.Sound) {a : Act} (p : c.Permits a) :
    (c.after a).errors id = c.errors id + (c.faults a).count id := by
  have hs := step_after h p
  generalize c.after a = d at hs
  cases hs with
  | wake ht => exact errors_wake h ht _
  | addServer s => exact errors_addServer c s
  | execute job => rfl
  | still ho q =>
    rw [ho.faults]
    exact errors_congr (q.account id)
  | stops ho =>
    rw [ho.faults]
    exact errors_stopEntries _ _
  | begins ho _ q _ hs =>
    rw [ho.faults]
    exact (errors_run hs).trans (errors_congr (q.account id))

/-- Errors add up along a run. -/
theorem errors_afterAll (h : Reachable c) {acts : List Act} (allows : c.Allows acts) :
    (c.afterAll acts).errors id = c.errors id +
      ((c.along failedPolls acts).count id + (c.along exhausted acts).count id) := by
  induction acts generalizing c with
  | nil => rfl
  | cons a acts ih =>
    rw [afterAll_cons, ih (h.act allows.1) allows.2, errors_after h.sound allows.1, faults, along,
      along, List.count_append, List.count_append, List.count_append]
    omega

/-! What errors do to an entry -/

/-- A task that is told of an error leaves the entry as the error does. -/
theorem account?_fault (h : Reachable c) (p : c.Permits (.wake t s)) (hf : c.fault? t s = some id) :
    ∃ x, c.account? id = some x ∧
      (¬ c.Pauses t id → (c.wake t s).account? id = some x.failed) ∧
      (c.Pauses t id → (c.wake t s).account? id =
        some (x.failed.retimed (some (.resume, c.issued.length)))) := by
  obtain ⟨x, hx⟩ := exists_account?_of_fault? h.sound p.1 hf
  refine ⟨x, hx, ?_⟩
  have hdrop : (c.dropTask t.id).Sound := (h.sound.resume p.1).of_suspend
  have hstarts := not_starts_of_fault h p hf
  cases heq : (c.dropTask t.id).heed t s with
  | none =>
    have hnone : (c.dropTask t.id).fault? t s = none := fault?_of_heed_none heq
    cases hnone.symm.trans hf
  | some b =>
    obtain ⟨-, hcount, hpause⟩ := (told_of_heed hdrop.numbered hdrop.registered heq).account id
    rw [account?_wake_of_heed h.sound p.1 heq hstarts]
    exact ⟨fun hp => (hcount hf hp).trans (congrArg _ hx),
      fun hp => (hpause hf hp).trans (congrArg _ hx)⟩

/-- What an act does to an entry by its errors. -/
structure Counts (c : Client) (id : EntryId) (a : Act) : Prop where
  /-- A poll that fails is counted. It pauses the entry, exactly if the new number is a multiple of
      the threshold. -/
  polls : id ∈ c.failedPolls a → ∃ x, c.account? id = some x ∧ (c.after a).account? id = some
    (if (x.errors + 1) % c.settings.pauseThreshold = 0 then
      x.failed.retimed (some (.resume, c.issued.length)) else x.failed)
  /-- A submission that is given up is counted, and pauses the entry. -/
  submissions : id ∈ c.exhausted a → ∃ x, c.account? id = some x ∧
    (c.after a).account? id = some (x.failed.retimed (some (.resume, c.issued.length)))
  /-- Nothing else is counted. -/
  others : id ∉ c.failedPolls a → id ∉ c.exhausted a → (c.after a).errors id = c.errors id

theorem counts_after (h : Reachable c) {a : Act} (p : c.Permits a) : c.Counts id a := by
  refine ⟨fun hm => ?_, fun hm => ?_, fun hpoll hexhausted => ?_⟩
  · have hfaults : id ∈ c.faults a := List.mem_append_left _ hm
    obtain ⟨t, s, rfl⟩ := exists_wake_of_mem hfaults
    obtain ⟨x, hx, hcount, hpause⟩ := account?_fault h p (fault?_of_mem hfaults)
    have hiff := pauses_of_failedPolls hm hx
    refine ⟨x, hx, ?_⟩
    split
    · exact hpause (hiff.2 ‹_›)
    · exact hcount fun hp => ‹¬ _› (hiff.1 hp)
  · have hfaults : id ∈ c.faults a := List.mem_append_right _ hm
    obtain ⟨t, s, rfl⟩ := exists_wake_of_mem hfaults
    obtain ⟨x, hx, -, hpause⟩ := account?_fault h p (fault?_of_mem hfaults)
    exact ⟨x, hx, hpause (pauses_of_exhausted hm)⟩
  · rw [errors_after h.sound p, faults, List.count_append, List.count_eq_zero.2 hpoll,
      List.count_eq_zero.2 hexhausted, Nat.add_zero]

end

end Harvest.Sync.Client
