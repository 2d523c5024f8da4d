import Harvest.Proofs.Sync.Behalf
import Harvest.Proofs.Sync.Halting
import Harvest.Proofs.Sync.Passing
import Harvest.Proofs.Sync.Resumption
/-!
Tasks that come in an act. A task that comes to wait on account of an entry does so in an act that
is done for the entry. A task that comes to wait for its turn comes in such an act as well, unless
all that it does for the entry is to refresh it.
-/

namespace Harvest.Sync

theorem Wait.entry?_congr {w v : Wait} (h : w.asGranted = v.asGranted) : w.entry? = v.entry? := by
  have granted : ∀ x : Wait, x.asGranted.entry? = x.entry? := fun x => by cases x <;> rfl
  rw [← granted w, h, granted v]

namespace Client

section

variable {c d : Client} {j : EntryId} {k : TaskId} {t : Task}

theorem Rests.entry? {n : Next} {w : Wait} {more : List Next} (h : c.Rests n (.waiting w more)) :
    w.entry? = n.entry? ∨ n.entry? = none ∧ n.delivers = true := by
  cases h with
  | refresh hw | start hw => rcases hw with rfl | rfl <;> exact .inl rfl
  | poll _ hp => rcases hp with rfl | ⟨_, -, rfl⟩ <;> exact .inl rfl
  | submission _ hn hs =>
    rcases hs with ⟨hnone, -⟩ | rfl
    · exact .inr ⟨hnone, hn⟩
    · exact .inl rfl
  | _ => exact .inl rfl

theorem tasks_attempt (c : Client) (x : Delivery) : (c.attempt x).1.tasks = c.tasks := by
  unfold attempt
  split
  · rfl
  · dsimp only
    split
    · rfl
    · split
      · rfl
      · split <;> rfl

theorem mem_tasks_attempt {x : Delivery} (ht : t ∈ (run k [.attempt x] c).tasks) :
    t ∈ c.tasks ∨ t.wait.entry? = some x.entry := by
  have tasks := tasks_attempt c x
  have rests : c.Rests (.attempt x) (c.attempt x).2 := rests_attempt rfl (.inr rfl)
  rw [run, perform] at ht
  generalize c.attempt x = a at tasks rests ht
  obtain ⟨d, p⟩ := a
  cases p with
  | done => exact .inl (tasks ▸ ht)
  | waiting w next =>
    rcases List.mem_append.1 ht with ht | ht
    · exact .inl (tasks ▸ ht)
    · obtain rfl := List.mem_singleton.1 ht
      rcases rests.entry? with hx | ⟨hnone, -⟩
      · exact .inr hx
      · cases hnone

theorem mem_tasks_submit {result : JobResult} (ht : t ∈ (run k [.submit result] c).tasks) :
    t ∈ c.tasks ∨ t.wait.entry? = c.owner? result.resourceId := by
  cases ho : c.owner? result.resourceId with
  | none =>
    rw [run_submit_of_none ho] at ht
    exact .inl ht
  | some id =>
    rw [run_submit ho] at ht
    exact mem_tasks_attempt ht

theorem kept_of_submits (hc : Reachable c) {a : Act} (p : c.Permits a) {result : JobResult}
    (h : c.Submits a k result) (hp : c.party? a ≠ some j) (ht : t ∈ (c.after a).tasks)
    (hj : t.wait.entry? = some j) : t ∈ c.tasks := by
  have howner : c.owner? result.resourceId ≠ some j := h.party? ▸ hp
  have hdrop : ∀ {u : Task}, u ∈ (c.dropTask k).tasks → u ∈ c.tasks := fun hu =>
    (List.mem_filter.1 hu).1
  cases h with
  | host =>
    rcases mem_tasks_submit ht with ht | ht
    · exact ht
    · exact absurd (ht.symm.trans hj) howner
  | @page _ job r reply next =>
    obtain rfl : next = [] := (lasting_alone.reachable hc _ p.1).1 job r rfl
    rcases mem_tasks_submit (c := c.dropTask k) ht with ht | ht
    · exact hdrop ht
    · exact absurd (ht.symm.trans hj) howner
  | @unasked _ job next fault hf =>
    have hn := ((lasting_alone.reachable hc _ p.1).2 job List.mem_cons_self).2
    obtain rfl : next = [] := (List.cons.inj hn).2
    have hf : Fetch.request (c.dropTask k).protection (c.dropTask k).settings.userAgent
      job.url.text = .error fault := hf
    have ht : t ∈ (run k [.execute job] (c.dropTask k)).tasks := ht
    have hrun : run k [.execute job] (c.dropTask k) =
        run k [.submit (Executor.result job (.error fault))] (c.dropTask k) := by
      simp only [run, perform, execute, hf]
    rw [hrun] at ht
    rcases mem_tasks_submit ht with ht | ht
    · exact hdrop ht
    · exact absurd (ht.symm.trans hj) howner

/-- A result is submitted by something that is done for no entry in the acts in which the submission
    begins; else the page of the job is asked for. -/
theorem submits_of_delivers (hc : Reachable c) {a : Act} (p : c.Permits a) {n : Next}
    (hn : n ∈ c.doneBy a) (hd : n.delivers = true) (hnone : n.entry? = none) :
    (∃ k result, c.Submits a k result) ∨ ∃ k job r, a = .wake ⟨k, .turn, [.execute job]⟩ .go ∧
      Fetch.request c.protection c.settings.userAgent job.url.text = .ok r := by
  cases occasion_of_doneBy hn with
  | @planned t s _ hnext =>
    by_cases hw : t.wait = .turn
    · obtain ⟨k, w, next⟩ := t
      obtain rfl : w = .turn := hw
      rcases hc.turn_of_mem p.1 rfl with hf | ⟨job, hj⟩
      · cases hf.idle.symm.trans (Task.delivers_of_mem hnext hd)
      · obtain rfl : next = [.execute job] := hj
        cases s with
        | go =>
          cases hr : Fetch.request c.protection c.settings.userAgent job.url.text with
          | error fault => exact .inl ⟨k, _, .unasked hr⟩
          | ok r => exact .inr ⟨k, job, r, rfl, hr⟩
        | _ => cases hn
    · obtain ⟨id, -, suits⟩ := hc.suits p.1 hw hnext
      cases hnone.symm.trans (suits.not_delivers hd)
  | arises ha =>
    cases ha with
    | submit => exact .inl ⟨_, _, .page⟩
    | attempt => cases hnone
    | _ => cases hd
  | start | startAll => cases hd
  | submit => exact .inl ⟨_, _, .host⟩

/-- A task waits on account of an entry after an act that is not about it only if it did before. -/
theorem kept_of_waits (hc : Reachable c) {a : Act} (p : c.Permits a) (h : ¬ c.Concerns j a)
    (hp : c.party? a ≠ some j) (ht : t ∈ (c.after a).tasks) (hj : t.wait.entry? = some j) :
    c.Kept t := by
  cases comes_of_mem hc.sound p ht with
  | kept hk => exact hk
  | fresh hf => cases hf <;> cases hj
  | execute job => cases hj
  | @rests d i n w more rest _ _ _ hn hr =>
    rcases hr.entry? with hw | ⟨hnone, hd⟩
    · exact absurd (.does hn (hw.symm.trans hj)) h
    · rcases submits_of_delivers hc p hn hd hnone with ⟨k, result, hs⟩ | ⟨k, job, r, rfl, hf⟩
      · exact .of_mem (kept_of_submits hc p hs hp ht hj)
      · have hafter : c.after (.wake ⟨k, .turn, [.execute job]⟩ .go) =
            ((c.dropTask k).send .page r).suspend k (.page job r) [] := by
          have hf : Fetch.request (c.dropTask k).protection (c.dropTask k).settings.userAgent
            job.url.text = .ok r := hf
          change run k [.execute job] (c.dropTask k) = _
          simp only [run, perform, execute, hf, List.append_nil]
        rw [hafter] at ht
        rcases List.mem_append.1 ht with ht | ht
        · exact .of_mem (List.mem_filter.1 ht).1
        · obtain heq := List.mem_singleton.1 ht
          obtain rfl : w = _ := congrArg Task.wait heq
          cases hj
  | @onward t s d w next ha _ heq =>
    subst ha
    exact absurd (.waits (( Onward.entry? (onward_of_heed heq rfl)).symm.trans hj)) h


end

end Client

/-! Tasks that wait for their turn -/

theorem Next.entry?_of_scheduled? {n : Next} {j : EntryId} (h : n.scheduled? = some j) :
    n.entry? = some j := by
  unfold Next.scheduled? at h
  split at h
  · exact h
  · cases h

/-- Whether all that a task does for an entry is to refresh it, if the task waits for its turn. -/
def Task.OnlyRefreshes (j : EntryId) (t : Task) : Prop :=
  t.wait = .turn → ∀ n ∈ t.next, n.entry? = some j → t.scheduled? = some j

theorem Task.eq_of_turn {t u : Task} (h : t.asGranted = u.asGranted) (hw : t.wait = .turn) :
    t = u := by
  have hwait : u.wait.asGranted = .turn := by
    rw [← show t.wait.asGranted = u.wait.asGranted from congrArg Task.wait h, hw]
    rfl
  have hu : u.wait = .turn := by
    rcases Wait.eq_of_asGranted (v := .turn) hwait with hu | ⟨_, _, hg⟩
    · exact hu
    · cases hg
  obtain ⟨k, w, next⟩ := t
  obtain ⟨k', w', next'⟩ := u
  obtain rfl : w = .turn := hw
  obtain rfl : w' = .turn := hu
  exact h

theorem Task.OnlyRefreshes.of_asGranted {j : EntryId} {t u : Task} (h : u.OnlyRefreshes j)
    (heq : t.asGranted = u.asGranted) : t.OnlyRefreshes j := by
  intro hw
  obtain rfl := Task.eq_of_turn heq hw
  exact h hw

theorem Task.onlyRefreshes_of_wait {j : EntryId} {t : Task} (h : t.wait ≠ .turn) :
    t.OnlyRefreshes j :=
  fun hw => absurd hw h

theorem Task.onlyRefreshes_of_ne {j : EntryId} {k : TaskId} {n : Next} (h : n.entry? ≠ some j) :
    Task.OnlyRefreshes j ⟨k, .turn, [n]⟩ := by
  rintro - m hm hj
  obtain rfl := List.mem_singleton.1 hm
  exact absurd hj h

namespace Client

section

variable {c d : Client} {j : EntryId} {k : TaskId} {t : Task}

theorem Chore.onlyRefreshes (h : c.Chore t) : t.OnlyRefreshes j := by
  cases h with
  | refresh =>
    rintro - n hn hj
    obtain rfl := List.mem_singleton.1 hn
    exact hj
  | driver => exact Task.onlyRefreshes_of_ne (by rintro ⟨⟩)

theorem Quiet.comes (q : Quiet c d) (ht : t ∈ d.tasks) : c.Kept t ∨ t.OnlyRefreshes j :=
  (q.mem_tasks ht).imp_right Chore.onlyRefreshes

theorem Told.comes {s : Signal} {b : Client × Course} {u : Task} (told : c.Told t s b)
    (hj : c.fault? t s ≠ some j) (hu : u ∈ b.1.tasks) : c.Kept u ∨ u.OnlyRefreshes j := by
  cases told with
  | quiet _ q => exact q.comes hu
  | counted _ _ q => exact q.comes hu
  | @paused i d hf _ q =>
    have hne : i ≠ j := fun hi => hj (hi ▸ hf)
    rw [pause_eq] at hu
    split at hu
    · exact q.comes hu
    · split at hu
      · exact q.comes hu
      · rcases List.mem_append.1 hu with hu | hu
        · exact q.comes hu
        · obtain rfl := List.mem_singleton.1 hu
          exact .inr (Task.onlyRefreshes_of_ne fun hi => hne (Option.some_inj.1 hi))

theorem Performs.comes {n : Next} (h : c.Performs n d) (hj : n.entry? ≠ some j)
    (ht : t ∈ d.tasks) : c.Kept t ∨ t.OnlyRefreshes j := by
  cases h with
  | start q => exact q.comes ht
  | timer =>
    rcases List.mem_append.1 ht with ht | ht
    · exact .inl (.of_mem ht)
    · obtain rfl := List.mem_singleton.1 ht
      exact .inr (Task.onlyRefreshes_of_ne hj)
  | quiet _ q => exact q.comes ht

theorem comes_trans (h : ∀ u ∈ d.tasks, c.Kept u ∨ u.OnlyRefreshes j)
    (g : d.Kept t ∨ t.OnlyRefreshes j) : c.Kept t ∨ t.OnlyRefreshes j := by
  rcases g with ⟨u, hu, heq⟩ | g
  · rcases h u hu with ⟨v, hv, hvu⟩ | hu
    · exact .inl ⟨v, hv, heq.trans hvu⟩
    · exact .inr (hu.of_asGranted heq)
  · exact .inr g

theorem comes_run {next : List Next} {c : Client} (h : (c.suspend k .turn next).Sound)
    (hj : ∀ n ∈ doing k next c, n.entry? ≠ some j) (ht : t ∈ (run k next c).tasks) :
    c.Kept t ∨ t.OnlyRefreshes j := by
  induction next generalizing c with
  | nil => exact .inl (.of_mem ht)
  | cons n rest ih =>
    have hp := h.perform
    have hr := rests_perform c k n
    rw [doing] at hj
    have hd : ∀ u ∈ (c.perform k n).1.tasks, c.Kept u ∨ u.OnlyRefreshes j := fun u hu =>
      h.performs.comes (hj n List.mem_cons_self) hu
    rw [run] at ht
    generalize c.perform k n = a at hp hr hd hj ht
    obtain ⟨d, p⟩ := a
    cases p with
    | done => exact comes_trans hd (ih hp (fun m hm => hj m (List.mem_cons_of_mem n hm)) ht)
    | waiting w more =>
      rcases List.mem_append.1 ht with ht | ht
      · exact hd t ht
      · obtain rfl := List.mem_singleton.1 ht
        exact .inr (Task.onlyRefreshes_of_wait hr.ne_turn)

theorem comes_turn (hc : c.Sound) (ht : t ∈ c.tasks) {s : Signal} {b : Client × Course}
    (heq : (c.dropTask t.id).heed t s = some b) (hj : t.wait.entry? ≠ some j) {u : Task}
    (hu : u ∈ b.1.tasks) : c.Kept u ∨ u.OnlyRefreshes j := by
  have hdrop : (c.dropTask t.id).Sound := (hc.resume ht).of_suspend
  have told := told_of_heed hdrop.numbered hdrop.registered heq
  refine comes_trans (fun v hv => .inl (.of_mem (List.mem_filter.1 hv).1)) (told.comes ?_ hu)
  exact fun hf => hj (entry?_of_fault? hf)

theorem comes_wake_of_ne (hc : c.Sound) (ht : t ∈ c.tasks) {s : Signal}
    (hw : t.wait.entry? ≠ some j) (hdone : ∀ n ∈ c.doneBy (.wake t s), n.entry? ≠ some j) {u : Task}
    (hu : u ∈ (c.wake t s).tasks) : c.Kept u ∨ u.OnlyRefreshes j := by
  rw [wake] at hu
  rw [doneBy] at hdone
  cases heq : (c.dropTask t.id).heed t s with
  | none =>
    rw [heq] at hu
    exact .inl (.of_mem hu)
  | some b =>
    have hb : ∀ v ∈ b.1.tasks, c.Kept v ∨ v.OnlyRefreshes j := fun v hv =>
      comes_turn hc ht heq hw hv
    have hsound := (hc.resume ht).heed heq
    have onward : ∀ w, b.2.wait? = some w → w ≠ .turn := fun w hw =>
      (onward_of_heed heq hw).ne_turn
    rw [heq] at hu hdone
    obtain ⟨d, course⟩ := b
    cases course with
    | goesOn next => exact comes_trans hb (comes_run hsound hdone hu)
    | waits w next =>
      rcases List.mem_append.1 hu with hu | hu
      · exact hb u hu
      · obtain rfl := List.mem_singleton.1 hu
        exact .inr (Task.onlyRefreshes_of_wait (onward w rfl))
    | ends => exact hb u hu

/-- A task that waits for its turn after an act that is not about an entry did so before, or all
    that it does for the entry is to refresh it. -/
theorem comes_after (hc : c.Sound) {a : Act} (p : c.Permits a) (hj : ¬ c.Concerns j a)
    (ht : t ∈ (c.after a).tasks) : c.Kept t ∨ t.OnlyRefreshes j := by
  have hdone : ∀ n ∈ c.doneBy a, n.entry? ≠ some j := fun n hn he => hj (.does hn he)
  have hs := step_after hc p
  generalize c.after a = d at hs ht
  cases hs with
  | wake hu => exact comes_wake_of_ne hc hu (fun he => hj (.waits he)) hdone ht
  | addServer s =>
    rw [tasks_addServer] at ht
    exact .inl (.of_mem ht)
  | execute job =>
    rcases List.mem_append.1 ht with ht | ht
    · exact .inl (.of_mem ht)
    · obtain rfl := List.mem_singleton.1 ht
      exact .inr (Task.onlyRefreshes_of_ne (by rintro ⟨⟩))
  | still _ _ _ tasks =>
    rw [tasks] at ht
    exact .inl (.of_mem ht)
  | stops =>
    rw [(unchanged_stopEntries ..).1] at ht
    exact .inl (.of_mem ht)
  | @begins _ d next ho _ q _ hs =>
    have hrun : d.Kept t ∨ t.OnlyRefreshes j :=
      comes_run (c := { d with taskCount := d.taskCount + 1 }) hs
        (fun n hn => hdone n (ho.done ▸ hn)) ht
    exact comes_trans (fun u hu => q.comes hu) hrun

end

end Client
end Harvest.Sync
