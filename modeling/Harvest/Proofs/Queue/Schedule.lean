import Harvest.Proofs.Queue.Scripts
import Mathlib.Algebra.Order.Floor.Div
/-!
The schedule of a queue that is left alone. Whether the queue is rested is seen at ticks only, so
the jobs begin a whole number of ticks apart, the least number that is no shorter than the interval.
A job begins at a tick itself, so that the count for the next one starts on the grid and the
roundings add up to a multiple of the pace.
-/

namespace Harvest.JobQueue

/-- How many ticks there are from one job to the next. -/
def turns (minInterval : Nat) : Nat := max 1 (minInterval ⌈/⌉ tickPeriod)

/-- The time from one job to the next. -/
def pace (minInterval : Nat) : Nat := tickPeriod * turns minInterval

section

variable {α : Type} {minInterval start j k : Nat} {jobs : List α} {q : JobQueue α}

theorem turns_pos (minInterval : Nat) : 0 < turns minInterval :=
  Nat.lt_of_lt_of_le Nat.one_pos (Nat.le_max_left ..)

theorem le_ticks_iff (h : 0 < k) : minInterval ≤ tickPeriod * k ↔ turns minInterval ≤ k := by
  have hperiod : 0 < tickPeriod := by decide
  rw [turns, max_le_iff, ceilDiv_le_iff_le_mul hperiod, iff_and_self]
  exact fun _ => h

theorem le_mod_iff {c : Nat} (h : 0 < c) : c ≤ j % c + 1 ↔ c ∣ j + 1 := by
  have hj : j + 1 = c * (j / c) + (j % c + 1) := by
    rw [← Nat.add_assoc, Nat.div_add_mod]
  rw [hj, Nat.dvd_add_right (Nat.dvd_mul_right ..)]
  constructor
  · intro hle
    have hlt := Nat.mod_lt j h
    rw [show j % c + 1 = c by omega]
  · exact Nat.le_of_dvd (Nat.succ_pos _)

/-- When each of some jobs begins, with the number of jobs that are waiting then. -/
def schedule (minInterval start : Nat) (jobs : List α) : List (Begun α) :=
  jobs.mapIdx fun i job => ⟨start + i * pace minInterval, job, jobs.length - (i + 1)⟩

/-- A running queue after some ticks from its start on. -/
structure Drained (minInterval start : Nat) (jobs : List α) (j : Nat) (q : JobQueue α) : Prop where
  interval : q.minInterval = minInterval
  running : q.isRunning
  pending : q.pending = jobs.drop (j / turns minInterval + 1)
  last : q.pending ≠ [] → q.lastRun = some (start + j / turns minInterval * pace minInterval)

theorem Drained.isRested_iff (h : Drained minInterval start jobs j q) (hpending : q.pending ≠ []) :
    q.isRested (start + tickPeriod * (j + 1)) ↔ turns minInterval ∣ j + 1 := by
  have hc := turns_pos minInterval
  have helapsed : start + tickPeriod * (j + 1) -
      (start + j / turns minInterval * pace minInterval) =
      tickPeriod * (j % turns minInterval + 1) := by
    rw [pace, Nat.mul_left_comm, Nat.add_sub_add_left, ← Nat.mul_sub]
    congr 1
    have := Nat.div_add_mod' j (turns minInterval)
    omega
  simp only [isRested, h.last hpending, h.interval, helapsed, decide_eq_true_eq]
  rw [le_ticks_iff (Nat.succ_pos _), le_mod_iff hc]

theorem tick_of_empty {now : Nat} (h : q.pending = []) : q.tick now = (q, none) := by
  simp [tick, h]

theorem tick_of_not_rested {now : Nat} (h : ¬ q.isRested now) : q.tick now = (q, none) := by
  simp [tick, h]

theorem tick_of_rested {now : Nat} {job : α} {rest : List α} (running : q.isRunning)
    (rested : q.isRested now) (h : q.pending = job :: rest) :
    q.tick now = ({ q with pending := rest, lastRun := some now }, some job) := by
  simp [tick, running, rested, h]

theorem length_schedule (minInterval start : Nat) (jobs : List α) :
    (schedule minInterval start jobs).length = jobs.length :=
  List.length_mapIdx

theorem schedule_take_succ (minInterval start : Nat) {job : α} {rest : List α}
    (h : jobs.drop k = job :: rest) :
    (schedule minInterval start jobs).take (k + 1) = (schedule minInterval start jobs).take k ++
      [⟨start + k * pace minInterval, job, rest.length⟩] := by
  have hjob : jobs[k]? = some job := by
    rw [← List.head?_drop, h]
    rfl
  have hrest : jobs.length - (k + 1) = rest.length := by
    rw [← List.length_drop, ← List.drop_drop, h]
    rfl
  rw [List.take_add_one, schedule, List.getElem?_mapIdx, hjob, ← hrest]
  rfl

/-- A tick of the driver has the next job begin if as many ticks have passed as it takes. -/
theorem Drained.tick (h : Drained minInterval start jobs j q) :
    let now := start + tickPeriod * (j + 1)
    Drained minInterval start jobs (j + 1) (q.tick now).1 ∧
      (schedule minInterval start jobs).take ((j + 1) / turns minInterval + 1) =
        (schedule minInterval start jobs).take (j / turns minInterval + 1) ++
          (q.tick now).2.toList.map (⟨now, ·, (q.tick now).1.size⟩) := by
  intro now
  have hmono : j / turns minInterval ≤ (j + 1) / turns minInterval :=
    Nat.div_le_div_right (Nat.le_succ j)
  have hpending := h.pending
  cases hq : q.pending with
  | nil =>
    have hall : jobs.length ≤ j / turns minInterval + 1 := by
      rw [hq] at hpending
      exact List.drop_eq_nil_iff.1 hpending.symm
    rw [tick_of_empty hq]
    refine ⟨⟨h.interval, h.running, ?_, fun hne => absurd hq hne⟩, ?_⟩
    · rw [hq, List.drop_eq_nil_of_le (by omega)]
    · rw [List.take_of_length_le, List.take_of_length_le]
      · exact (List.append_nil _).symm
      · rw [length_schedule]; omega
      · rw [length_schedule]; omega
  | cons job rest =>
    have hne : q.pending ≠ [] := by simp [hq]
    by_cases hdvd : turns minInterval ∣ j + 1
    · have hnext := Nat.succ_div_of_dvd hdvd
      have hnow : start + (j / turns minInterval + 1) * pace minInterval = now := by
        rw [← hnext, pace, Nat.mul_left_comm, Nat.div_mul_cancel hdvd]
      rw [hq] at hpending
      rw [tick_of_rested h.running ((h.isRested_iff hne).2 hdvd) hq, hnext]
      refine ⟨⟨h.interval, h.running, ?_, fun _ => ?_⟩, ?_⟩
      · rw [hnext, ← List.drop_drop, ← hpending]
        rfl
      · rw [hnext, hnow]
      · rw [schedule_take_succ minInterval start hpending.symm, hnow]
        rfl
    · have hsame := Nat.succ_div_of_not_dvd hdvd
      rw [tick_of_not_rested fun hrested => hdvd ((h.isRested_iff hne).1 hrested), hsame]
      exact ⟨⟨h.interval, h.running, hsame ▸ hpending, hsame ▸ h.last⟩, (List.append_nil _).symm⟩

/-- A start has the first job begin. -/
theorem drained_start (minInterval start drivers : Nat) (jobs : List α) :
    let out := (⟨minInterval, jobs, none, none, drivers⟩ : JobQueue α).start start
    Drained minInterval start jobs 0 out.1 ∧
      (schedule minInterval start jobs).take (0 / turns minInterval + 1) =
        out.2.toList.map (⟨start, ·, out.1.size⟩) := by
  rw [Nat.zero_div]
  cases jobs with
  | nil => exact ⟨⟨rfl, rfl, by rw [Nat.zero_div]; rfl, fun hne => absurd rfl hne⟩, rfl⟩
  | cons job rest =>
    refine ⟨⟨rfl, rfl, by rw [Nat.zero_div]; rfl, fun _ => ?_⟩, ?_⟩
    · rw [Nat.zero_div, Nat.zero_mul]
      rfl
    · rw [schedule_take_succ minInterval start rfl, Nat.zero_mul]
      rfl

theorem le_now_iff {now : Nat} (minInterval i : Nat) (reached : start + tickPeriod * j ≤ now)
    (before : now < start + tickPeriod * (j + 1)) :
    start + i * pace minInterval ≤ now ↔ i < j / turns minInterval + 1 := by
  rw [Nat.lt_succ_iff, Nat.le_div_iff_mul_le (turns_pos _), pace, Nat.mul_left_comm]
  generalize i * turns minInterval = ticks
  simp only [tickPeriod] at *
  omega

end

/-! Scripts -/

namespace Run

section

variable {ι : Type} {minInterval start j : Nat} {jobs : List ι} {r : Run ι}

theorem perform_nil (fuel : Nat) (r : Run ι) : perform fuel [] r = r := by
  cases fuel <;> rfl

/-- What is left to do when no job that begins does anything. -/
theorem act_singleton {a : Action ι} (h : (r.apply a).2 = []) : r.act [a] = (r.apply a).1 := by
  have hfuel : weights [a] + r.waiting = (weights [a] - 1 + r.waiting) + 1 := by
    have : 0 < weights [a] := by
      simp only [weights, Nat.add_zero]
      cases a <;> simp [weight]
    omega
  rw [act, hfuel]
  change perform _ ((r.apply a).2 ++ []) (r.apply a).1 = (r.apply a).1
  rw [h]
  exact perform_nil ..

/-- A script that has added some jobs, which do nothing, to a queue that was never started. -/
def gathered (minInterval now : Nat) (jobs : List ι) : Run ι :=
  ⟨now, ⟨minInterval, jobs.map (·, []), none, none, 0⟩, 0, []⟩

theorem gathered_sleep (now ms : Nat) (jobs : List ι) :
    (gathered minInterval now jobs).sleep ms = gathered minInterval (now + ms) jobs := rfl

theorem gathered_add (now : Nat) (jobs : List ι) (job : ι) :
    (gathered minInterval now jobs).act [.add job []] =
      gathered minInterval now (jobs ++ [job]) := by
  have happly : (gathered minInterval now jobs).apply (.add job []) =
      (gathered minInterval now (jobs ++ [job]), []) := by
    simp [apply, gathered, add, isRunning, settle]
  rw [act_singleton (by rw [happly]), happly]

/-- Adds jobs, each after some time. -/
def arrive (arrivals : List (Nat × ι)) : List (Step ι) :=
  arrivals.flatMap fun (ms, job) => [.sleep ms, .act (.add job [])]

theorem foldl_arrive (now : Nat) (jobs : List ι) (arrivals : List (Nat × ι)) :
    (arrive arrivals).foldl step (gathered minInterval now jobs) =
      gathered minInterval (now + (arrivals.map (·.1)).sum) (jobs ++ arrivals.map (·.2)) := by
  induction arrivals generalizing now jobs with
  | nil => simp [arrive]
  | cons first arrivals ih =>
    obtain ⟨ms, job⟩ := first
    have hcons : arrive ((ms, job) :: arrivals) =
        .sleep ms :: .act (.add job []) :: arrive arrivals := rfl
    rw [hcons, List.foldl_cons, List.foldl_cons]
    simp only [step, gathered_sleep, gathered_add, ih]
    simp [Nat.add_assoc]

/-- A script that has done nothing since it started the queue, after some ticks. -/
structure Drains (minInterval start : Nat) (jobs : List ι) (j : Nat) (r : Run ι) : Prop where
  queue : Drained minInterval start (jobs.map (·, [])) j r.queue
  begun : r.begun = ((schedule minInterval start (jobs.map (·, []))).take
    (j / turns minInterval + 1)).map Begun.plain
  reached : start + tickPeriod * j ≤ r.now
  before : r.now < r.due
  due : r.due = start + tickPeriod * (j + 1)

/-- Jobs that do nothing leave nothing to do when they begin. -/
theorem settle_actions {q : JobQueue (ι × List (Action ι))} {now : Nat}
    {out : JobQueue (ι × List (Action ι)) × Option (ι × List (Action ι))} (h : q.Ticks now out)
    (hidle : ∀ job ∈ q.pending, job.2 = []) : (r.settle out).2 = [] := by
  cases h with
  | rests => rfl
  | begins _ _ hpending =>
    rw [hpending] at hidle
    exact hidle _ List.mem_cons_self

theorem drains_start (minInterval start : Nat) (jobs : List ι) :
    ((gathered minInterval start jobs).act [.start]).Drains minInterval start jobs 0 := by
  obtain ⟨hqueue, hbegun⟩ := drained_start minInterval start 0
    (jobs.map fun job => (job, ([] : List (Action ι))))
  have hidle : ((gathered minInterval start jobs).apply .start).2 = [] := by
    refine settle_actions (ticks_start ..) ?_
    simp [gathered]
  rw [act_singleton hidle]
  refine ⟨?_, ?_, ?_, ?_, ?_⟩
  · rw [apply, settle_queue]
    exact hqueue
  · rw [apply, settle_begun, hbegun, List.map_map]
    rfl
  · rw [apply_now]
    exact Nat.le_refl _
  · rw [apply, settle_now, settle_due]
    exact Nat.lt_add_of_pos_right (by decide)
  · rw [apply, settle_due]
    rfl

/-- A tick of the driver when the job that begins, if one does, does nothing. -/
theorem driverTick_of_idle {k : Nat} (h : r.queue.driver = some k)
    (hidle : (r.settle (r.queue.tick r.now)).2 = []) :
    r.driverTick = ⟨r.now, (r.queue.tick r.now).1, r.due + tickPeriod,
      (r.settle (r.queue.tick r.now)).1.begun⟩ := by
  have hdriver : (r.queue.tick r.now).1.driver = some k := (ticks_tick ..).driver.trans h
  have heq := driverTick_eq h
  simp only [hidle, act, perform_nil, settle_queue, settle_now, hdriver, if_true] at heq
  exact heq

theorem Drains.driverTick (h : r.Drains minInterval start jobs j) :
    ∃ s, { r with now := r.due }.driverTick = s ∧ s.Drains minInterval start jobs (j + 1) ∧
      s.now = r.due := by
  obtain ⟨hqueue, hbegun⟩ := h.queue.tick
  rw [← h.due] at hqueue hbegun
  obtain ⟨k, hk⟩ := Option.isSome_iff_exists.1 h.queue.running
  have hidle : ({ r with now := r.due }.settle (r.queue.tick r.due)).2 = [] := by
    refine settle_actions (ticks_tick ..) fun job hjob => ?_
    rw [h.queue.pending] at hjob
    obtain ⟨_, -, rfl⟩ := List.mem_map.1 (List.mem_of_mem_drop hjob)
    rfl
  have hnext : r.due + tickPeriod = start + tickPeriod * (j + 1 + 1) := by
    rw [h.due, Nat.mul_succ tickPeriod (j + 1), Nat.add_assoc]
  refine ⟨_, driverTick_of_idle hk hidle, ⟨hqueue, ?_, ?_, ?_, hnext⟩, rfl⟩
  · rw [settle_begun, hbegun, h.begun, List.map_append, List.map_map]
    rfl
  · exact Nat.le_of_eq h.due.symm
  · exact Nat.lt_add_of_pos_right (by decide)

/-- Time passes up to an instant, with a tick whenever the driver is due. -/
theorem Drains.passTo {instant : Nat} (fuel : Nat) (h : r.Drains minInterval start jobs j)
    (le : r.now ≤ instant) (enough : instant < r.due + fuel * tickPeriod) :
    ∃ k s, passTo instant fuel r = s ∧ s.Drains minInterval start jobs k ∧ s.now = instant := by
  have hreached := Nat.le_trans h.reached le
  induction fuel generalizing r j with
  | zero =>
    have hbefore : instant < r.due := by simpa using enough
    exact ⟨j, _, rfl, ⟨h.queue, h.begun, hreached, hbefore, h.due⟩, rfl⟩
  | succ fuel ih =>
    have hrunning : r.queue.isRunning = true := h.queue.running
    unfold Run.passTo
    split
    · rename_i hdue
      simp only [hrunning, Bool.true_and, decide_eq_true_eq] at hdue
      obtain ⟨s, hs, hticked, hnow⟩ := h.driverTick
      rw [hs]
      refine ih hticked (hnow ▸ hdue) ?_ (Nat.le_trans hticked.reached (hnow ▸ hdue))
      rw [hticked.due]
      have := h.due
      simp only [tickPeriod] at *
      omega
    · rename_i hdue
      simp only [hrunning, Bool.true_and, decide_eq_true_eq, Nat.not_le] at hdue
      exact ⟨j, _, rfl, ⟨h.queue, h.begun, hreached, hdue, h.due⟩, rfl⟩

theorem Drains.sleeps (sleeps : List Nat) (h : r.Drains minInterval start jobs j) :
    ∃ k s, (sleeps.map .sleep).foldl step r = s ∧ s.Drains minInterval start jobs k ∧
      s.now = r.now + sleeps.sum := by
  induction sleeps generalizing r j with
  | nil => exact ⟨j, r, rfl, h, rfl⟩
  | cons ms sleeps ih =>
    have enough : r.now + ms < r.due + (ms / tickPeriod + 1) * tickPeriod := by
      have := h.before
      simp only [tickPeriod]
      omega
    obtain ⟨k, s, hs, hslept, hnow⟩ := h.passTo (ms / tickPeriod + 1) (Nat.le_add_right ..) enough
    obtain ⟨l, u, hu, hdone, hlast⟩ := ih hslept
    refine ⟨l, u, ?_, hdone, ?_⟩
    · rw [List.map_cons, List.foldl_cons, ← hu, ← hs]
      rfl
    · rw [hlast, hnow, List.sum_cons, Nat.add_assoc]

end

/-- Jobs that are added to a queue before it is started begin as soon as it is started and then at
    the pace of the queue, each of them exactly, if nothing else is done; and after the last of them
    no job is left. -/
theorem jobs_begin_on_schedule {ι : Type} (minInterval : Nat) (arrivals : List (Nat × ι))
    (wait : Nat) (sleeps : List Nat) :
    let jobs := arrivals.map (·.2)
    let start := (arrivals.map (·.1)).sum + wait
    let r := play minInterval (arrive arrivals ++ [.sleep wait, .act .start] ++ sleeps.map .sleep)
    r.now = start + sleeps.sum ∧
    (∀ i, r.begun[i]? = if start + i * pace minInterval ≤ r.now then
      jobs[i]?.map (⟨start + i * pace minInterval, ·, jobs.length - (i + 1)⟩) else none) ∧
    (r.queue.pending = [] ↔ start + (jobs.length - 1) * pace minInterval ≤ r.now) := by
  intro jobs start r
  have hgathered : (arrive arrivals ++ [Step.sleep wait, Step.act .start]).foldl step
      (.new minInterval) = (gathered minInterval start jobs).act [.start] := by
    rw [List.foldl_append]
    change [Step.sleep wait, .act .start].foldl step
      ((arrive arrivals).foldl step (gathered minInterval 0 [])) = _
    rw [foldl_arrive, List.nil_append, Nat.zero_add]
    rfl
  obtain ⟨j, s, hs, hdrains, hnow⟩ := (drains_start minInterval start jobs).sleeps sleeps
  have hr : r = s := by
    rw [← hs, ← hgathered]
    exact List.foldl_append
  have hbefore : s.now < start + tickPeriod * (j + 1) := hdrains.due ▸ hdrains.before
  have hturn (i : Nat) := le_now_iff minInterval i hdrains.reached hbefore
  rw [hr]
  refine ⟨?_, fun i => ?_, ?_⟩
  · rw [hnow, act, perform_now]
    rfl
  · rw [hdrains.begun, List.getElem?_map, List.getElem?_take, if_congr (hturn i) rfl rfl]
    split
    · simp [schedule, Begun.plain, Function.comp_def]
    · rfl
  · rw [hdrains.queue.pending, hturn, List.drop_eq_nil_iff, List.length_map]
    generalize j / turns minInterval = k
    omega

/-- With an interval of a tick and a half jobs begin two ticks apart. -/
example : ((play 150 (arrive [(10, 1), (20, 2), (0, 3)] ++ [.sleep 5, .act .start] ++
    [390, 80].map .sleep)).begun.map fun b => (b.time, b.job)) =
      [(35, 1), (235, 2), (435, 3)] := by
  decide

end Run
end Harvest.JobQueue
