import Harvest.Proofs.Queue.Thread
/-!
The pace of a queue. Jobs begin only while it is running, and no sooner one after the other than the
least interval allows. There is one driver at most that was not aborted, so drivers tick no more
often than one of them would, however often the queue is started again.
-/

namespace Harvest.JobQueue

/-! Ticks at a distance -/

/-- Whether ticks are a period apart, but for the lateness that a timer makes up for. -/
def Steady (ticks : List Nat) : Prop :=
  ∀ i j (_ : i < j) (_ : j < ticks.length),
    ticks[i] + (j - i) * tickPeriod ≤ ticks[j] + graceTime

/-- Whether the next tick may be at some time. -/
def Awaits (ticks : List Nat) (due : Nat) : Prop :=
  ∀ i (_ : i < ticks.length),
    ticks[i] + (ticks.length - i) * tickPeriod ≤ due + graceTime

theorem Steady.awaits {ticks : List Nat} {now : Nat} (h : Steady ticks)
    (past : ∀ x ∈ ticks, x ≤ now) : Awaits ticks (now + tickPeriod) := by
  intro i hi
  have hlast : ticks[ticks.length - 1] ≤ now := past _ (List.getElem_mem _)
  by_cases hi' : i = ticks.length - 1
  · subst hi'
    simp only [tickPeriod]
    omega
  · have := h i (ticks.length - 1) (by omega) (by omega)
    simp only [tickPeriod] at *
    omega

theorem Steady.concat {ticks : List Nat} {due now : Nat} (h : Steady ticks)
    (hdue : Awaits ticks due) (le : due ≤ now) : Steady (ticks ++ [now]) := by
  intro i j hij hj
  rw [List.length_append, List.length_singleton] at hj
  rw [List.getElem_append_left (by omega), List.getElem_append]
  split
  · exact h i j hij ‹_›
  · obtain rfl : j = ticks.length := by omega
    have := hdue i hij
    simp only [Nat.sub_self, List.getElem_cons_zero]
    omega

theorem Awaits.next {ticks : List Nat} {due : Nat} (h : Awaits ticks due) (now : Nat) :
    Awaits (ticks ++ [now]) (Ticker.next ⟨tickPeriod, due⟩ now).due := by
  intro i hi
  have hlate : now + tickPeriod ≤ (Ticker.next ⟨tickPeriod, due⟩ now).due + graceTime ∧
      due + tickPeriod ≤ (Ticker.next ⟨tickPeriod, due⟩ now).due := by
    simp only [Ticker.next]
    split <;> omega
  rw [List.length_append, List.length_singleton] at hi ⊢
  rw [List.getElem_append]
  split
  · have := h i ‹_›
    simp only [tickPeriod] at *
    omega
  · obtain rfl : i = ticks.length := by omega
    simp only [Nat.sub_self, List.getElem_cons_zero, tickPeriod] at *
    omega

/-- Whether the timer of a driver, if it is set, goes off no sooner than the ticks so far allow. -/
def Driver.Keeps (d : Driver) (ticks : List Nat) : Prop :=
  ∀ ticker ∈ d.ticker, ticker.period = tickPeriod ∧ Awaits ticks ticker.due

theorem Driver.keeps_begin {ticks : List Nat} {now : Nat} (h : Steady ticks)
    (past : ∀ x ∈ ticks, x ≤ now) (d : Driver) : (d.begin now).Keeps ticks := by
  rintro _ ⟨⟩
  exact ⟨rfl, h.awaits past⟩

theorem Driver.keeps_next {ticks : List Nat} {d : Driver} (h : d.Keeps ticks) (now : Nat) :
    (d.next now).Keeps (ticks ++ [now]) := by
  intro ticker hticker
  obtain ⟨⟨period, due⟩, hd, rfl⟩ := Option.map_eq_some_iff.1 hticker
  obtain ⟨rfl, hdue⟩ := h _ hd
  exact ⟨rfl, hdue.next now⟩

namespace Thread

section

variable {minInterval : Nat} {t : Thread α} {m : Move α}

theorem changed_lastRun (t : Thread α) (m : Move α) :
    (t.changed m).lastRun = t.queue.lastRun := by
  cases m with
  | call c => cases c <;> simp [changed, appended, JobQueue.stop]
  | wake | tick | finish | elapse => rfl

theorem changed_minInterval (t : Thread α) (m : Move α) :
    (t.changed m).minInterval = t.queue.minInterval := by
  cases m with
  | call c => cases c <;> simp [changed, appended, JobQueue.stop]
  | wake | tick | finish | elapse => rfl

theorem isRunning_of_changed (h : (t.changed m).isRunning) :
    t.queue.isRunning ∨ m = .call .start := by
  cases m with
  | call c =>
    cases c with
    | add => exact .inl h
    | start => exact .inr rfl
    | stop => cases h
  | wake | tick | finish | elapse => exact .inl h

theorem abort_now (t : Thread α) : t.abort.now = t.now := by
  unfold abort
  split <;> rfl

theorem clock_le_after (p : t.Permits m) : t.now ≤ (t.after m).now := by
  cases m with
  | call c => cases c <;> simp [after, spawn_now, abort_now]
  | tick => simp [after, modifyDriver]
  | wake | finish => exact Nat.le_refl _
  | elapse => exact p

/-! When jobs begin -/

/-- The time of the last job bounds those of all others, and they are apart. -/
structure Apart (minInterval : Nat) (t : Thread α) : Prop where
  interval : t.queue.minInterval = minInterval
  last : ∀ b ∈ t.begun, ∃ last, t.queue.lastRun = some last ∧ b.time ≤ last
  past : ∀ last, t.queue.lastRun = some last → last ≤ t.now
  apart : t.begun.Pairwise fun a b => a.time + minInterval ≤ b.time

theorem apart_new (minInterval now : Nat) : (new minInterval now : Thread α).Apart minInterval :=
  ⟨rfl, nofun, nofun, .nil⟩

/-- In a queue that is rested all jobs began at least the least interval ago. -/
theorem Apart.add_le_now (h : t.Apart minInterval) (rested : (t.changed m).isRested t.now)
    {b : Begun α} (hb : b ∈ t.begun) : b.time + minInterval ≤ t.now := by
  obtain ⟨last, hlast, hle⟩ := h.last b hb
  have hpast := h.past last hlast
  have hinterval := h.interval
  rw [isRested, changed_lastRun, changed_minInterval, hlast] at rested
  simp only [decide_eq_true_eq] at rested
  omega

theorem Apart.after (h : t.Apart minInterval) (p : t.Permits m) :
    (t.after m).Apart minInterval := by
  obtain ⟨out, hticks, hqueue, hbegun⟩ := t.exists_ticks m
  have hclock := clock_le_after p
  have hinterval : (t.after m).queue.minInterval = minInterval := by
    rw [hqueue, hticks.minInterval, changed_minInterval, h.interval]
  cases hticks with
  | rests =>
    have hlast : (t.after m).queue.lastRun = t.queue.lastRun := by rw [hqueue, changed_lastRun]
    have hsame : (t.after m).begun = t.begun := by simpa using hbegun
    refine ⟨hinterval, ?_, fun last h' => ?_, hsame ▸ h.apart⟩
    · rw [hsame, hlast]
      exact h.last
    · exact Nat.le_trans (h.past last (hlast ▸ h')) hclock
  | begins _ hrested hpending =>
    have hlast : (t.after m).queue.lastRun = some t.now := by rw [hqueue]
    have hnew : ∀ b ∈ t.begun, b.time + minInterval ≤ t.now := fun b hb => h.add_le_now hrested hb
    simp only [Option.toList_some, List.map_cons, List.map_nil] at hbegun
    refine ⟨hinterval, fun b hb => ⟨t.now, hlast, ?_⟩, fun last h' => ?_, ?_⟩
    · rw [hbegun, List.mem_append, List.mem_singleton] at hb
      rcases hb with hb | rfl
      · have := hnew b hb
        omega
      · exact Nat.le_refl _
    · rw [hlast, Option.some_inj] at h'
      omega
    · rw [hbegun, List.pairwise_append]
      refine ⟨h.apart, List.pairwise_singleton .., fun a ha b hb => ?_⟩
      rw [List.mem_singleton.1 hb]
      exact hnew a ha

/-- A job begins only in a queue that is running, or is started by this move. -/
theorem running_of_begun (t : Thread α) (m : Move α) : (t.after m).begun = t.begun ∨
    (t.after m).queue.isRunning ∧ (t.queue.isRunning ∨ m = .call .start) := by
  obtain ⟨out, hticks, hqueue, hbegun⟩ := t.exists_ticks m
  cases hticks with
  | rests => exact .inl (by simpa using hbegun)
  | begins hrunning =>
    refine .inr ⟨?_, isRunning_of_changed hrunning⟩
    rw [hqueue]
    exact hrunning

/-! Drivers -/

/-- Whether a driver is there and was not aborted. -/
def Live (t : Thread α) (k : Nat) : Prop := t.drivers[k]?.any fun d => !d.aborted

/-- The driver of the queue is the only one that lives, and the next one has a number of its own. -/
structure Driven (t : Thread α) : Prop where
  count : t.drivers.length = t.queue.drivers
  live : ∀ k, t.Live k ↔ t.queue.driver = some k

theorem driven_new (minInterval now : Nat) : (new minInterval now : Thread α).Driven :=
  ⟨rfl, fun k => by simp [Live, new, JobQueue.empty]⟩

theorem driver_after (t : Thread α) (m : Move α) :
    (t.after m).queue.driver = (t.changed m).driver := by
  obtain ⟨out, hticks, hqueue, -⟩ := t.exists_ticks m
  rw [hqueue, hticks.driver]

theorem count_after (t : Thread α) (m : Move α) :
    (t.after m).queue.drivers = (t.changed m).drivers := by
  obtain ⟨out, hticks, hqueue, -⟩ := t.exists_ticks m
  rw [hqueue, hticks.drivers]

theorem live_modifyDriver {f : Driver → Driver} (hf : ∀ d, (f d).aborted = d.aborted)
    (t : Thread α) (j k : Nat) : (t.modifyDriver j f).Live k ↔ t.Live k := by
  by_cases hj : j = k <;>
    simp [Live, modifyDriver, hj, hf, Option.any_map]

theorem live_concat (t : Thread α) (k : Nat) :
    ({ t with drivers := t.drivers ++ [⟨none, false⟩] } : Thread α).Live k ↔
      t.Live k ∨ k = t.drivers.length := by
  simp only [Live, List.getElem?_append]
  split
  · simp [Nat.ne_of_lt ‹_›]
  · have hnone : t.drivers[k]? = none := List.getElem?_eq_none (by omega)
    have hlen : k - t.drivers.length = 0 ↔ k = t.drivers.length := by omega
    by_cases hk : k = t.drivers.length <;> simp [hnone, hlen, hk]

theorem live_spawn (h : t.Driven) (k : Nat) :
    t.spawn.Live k ↔ t.queue.started.driver = some k := by
  cases hd : t.queue.driver with
  | some j => simp [spawn, started, isRunning, hd, h.live]
  | none =>
    simp [spawn, started, isRunning, hd, live_concat, h.live, h.count, eq_comm]

theorem live_abort (h : t.Driven) (k : Nat) : ¬ t.abort.Live k := by
  have hlive := h.live k
  unfold abort
  split <;> rename_i hd
  · simp [hlive, hd]
  · rename_i j
    by_cases hj : j = k
    · simp [Live, modifyDriver, Driver.abort, hj, Option.any_map]
    · simpa [Live, modifyDriver, hj, hd] using hlive

/-- What a move makes of the drivers. -/
theorem drivers_after (t : Thread α) (m : Move α) : (t.after m).drivers =
    match m with
    | .call .start => t.spawn.drivers
    | .call .stop => t.abort.drivers
    | .wake k => t.drivers.modify k (·.begin t.now)
    | .tick k => t.drivers.modify k (·.next t.now)
    | _ => t.drivers := by
  cases m with
  | call c => cases c <;> simp [after]
  | tick => simp [after, modifyDriver]
  | wake | finish | elapse => rfl

theorem Driven.after (h : t.Driven) (m : Move α) : (t.after m).Driven := by
  refine ⟨?_, fun k => ?_⟩
  · rw [count_after, drivers_after]
    cases m with
    | call c =>
      cases c with
      | add => exact h.count
      | start =>
        cases hd : t.queue.driver <;> simp [spawn, changed, started, isRunning, hd, h.count]
      | stop =>
        cases hd : t.queue.driver <;>
          simp [abort, modifyDriver, changed, JobQueue.stop, hd, h.count]
    | wake | tick => simp [changed, h.count]
    | finish | elapse => exact h.count
  · rw [driver_after, Live, drivers_after]
    cases m with
    | call c =>
      cases c with
      | add => exact h.live k
      | start => exact live_spawn h k
      | stop => exact iff_of_false (live_abort h k) (by simp [changed, JobQueue.stop])
    | wake j =>
      exact (live_modifyDriver (f := (·.begin t.now)) (fun _ => rfl) t j k).trans (h.live k)
    | tick j =>
      exact (live_modifyDriver (f := (·.next t.now)) (fun _ => rfl) t j k).trans (h.live k)
    | finish | elapse => exact h.live k

/-! Ticks of drivers -/

/-- The ticks of drivers are steady, and the next one will be in time. -/
structure Timed (t : Thread α) : Prop where
  past : ∀ x ∈ t.ticks, x ≤ t.now
  steady : Steady t.ticks
  due : ∀ k, t.Live k → ∀ d ∈ t.drivers[k]?, d.Keeps t.ticks

theorem ticks_after (t : Thread α) (m : Move α) : (t.after m).ticks =
    match m with
    | .tick _ => t.ticks ++ [t.now]
    | _ => t.ticks := by
  cases m with
  | call c => cases c <;> simp [after, spawn, abort, modifyDriver] <;> split <;> rfl
  | tick => simp [after, modifyDriver]
  | wake | finish | elapse => rfl

theorem Live.lt {k : Nat} (h : t.Live k) : k < t.drivers.length := by
  refine Nat.lt_of_not_le fun hk => ?_
  simp [Live, List.getElem?_eq_none hk] at h

/-- What holds of a driver before its first turn and of all that live, holds with a new one. -/
theorem of_spawn {P : Driver → Prop} (h : ∀ k, t.Live k → ∀ d ∈ t.drivers[k]?, P d)
    (fresh : P ⟨none, false⟩) : ∀ k, t.spawn.Live k → ∀ d ∈ t.spawn.drivers[k]?, P d := by
  intro k hk d hd
  unfold spawn at hk hd
  split at hk
  · exact h k hk d (by simpa [*] using hd)
  · simp only [*] at hd
    rcases (live_concat t k).1 hk with hk | rfl
    · exact h k hk d (by simpa [List.getElem?_append_left hk.lt] using hd)
    · obtain rfl : (⟨none, false⟩ : Driver) = d := by simpa using hd
      exact fresh

/-- Only one driver lives, so what holds of a driver after its turn holds of all that live. -/
theorem Driven.of_modify (h : t.Driven) {k : Nat} (hk : t.Live k) (f : Driver → Driver)
    (hf : ∀ d, (f d).aborted = d.aborted) {P : Driver → Prop} (hP : ∀ d ∈ t.drivers[k]?, P (f d)) :
    ∀ j, (t.modifyDriver k f).Live j → ∀ d ∈ (t.drivers.modify k f)[j]?, P d := by
  intro j hj d hd
  rw [live_modifyDriver hf] at hj
  obtain rfl : k = j := Option.some_inj.1 (((h.live k).1 hk).symm.trans ((h.live j).1 hj))
  rw [List.getElem?_modify_eq] at hd
  obtain ⟨e, he, rfl⟩ := Option.map_eq_some_iff.1 hd
  exact hP e he

theorem live_of_wakes {k : Nat} (p : t.Permits (.wake k)) : t.Live k := by
  obtain ⟨d, hd, hfresh⟩ := (Option.any_eq_true ..).1 p.2
  simp only [Driver.isFresh, Bool.and_eq_true] at hfresh
  simp [Live, hd, hfresh.1]

theorem due_of_ticks {k : Nat} (p : t.Permits (.tick k)) : ∃ d ticker, t.Live k ∧
    t.drivers[k]? = some d ∧ d.ticker = some ticker ∧ ticker.due ≤ t.now := by
  obtain ⟨d, hd, hdue⟩ := (Option.any_eq_true ..).1 p.2
  simp only [Driver.isDue, Bool.and_eq_true, Option.any_eq_true, decide_eq_true_eq] at hdue
  obtain ⟨haborted, ticker, hticker, hle⟩ := hdue
  exact ⟨d, ticker, by simp [Live, hd, haborted], hd, hticker, hle⟩

/-- A tick comes no sooner than the driver's timer allows, which is set again for the next one. -/
theorem Timed.tick (h : t.Timed) (driven : t.Driven) {k : Nat} (p : t.Permits (.tick k)) :
    (t.after (.tick k)).Timed := by
  obtain ⟨d, ticker, hlive, hd, hticker, hle⟩ := due_of_ticks p
  have hkeeps := h.due k hlive d hd
  refine ⟨?_, ?_, ?_⟩
  · rw [ticks_after]
    intro x hx
    rcases List.mem_append.1 hx with hx | hx
    · exact Nat.le_trans (h.past x hx) (clock_le_after p)
    · rw [List.mem_singleton.1 hx]
      exact clock_le_after p
  · rw [ticks_after]
    exact h.steady.concat (hkeeps ticker hticker).2 hle
  · simp only [Live, drivers_after, ticks_after]
    refine driven.of_modify hlive (·.next t.now) (fun _ => rfl) fun e he => ?_
    obtain rfl : d = e := Option.some_inj.1 (hd.symm.trans he)
    exact Driver.keeps_next hkeeps t.now

theorem Timed.after (h : t.Timed) (driven : t.Driven) (p : t.Permits m) : (t.after m).Timed := by
  have still : (t.after m).ticks = t.ticks →
      (∀ k, (t.after m).Live k → ∀ d ∈ (t.after m).drivers[k]?, d.Keeps t.ticks) →
      (t.after m).Timed := fun hsame hdue =>
    ⟨fun x hx => Nat.le_trans (h.past x (hsame ▸ hx)) (clock_le_after p), hsame ▸ h.steady,
      hsame ▸ hdue⟩
  simp only [Live, drivers_after] at still
  cases m with
  | call c =>
    cases c with
    | add => exact still (ticks_after ..) h.due
    | start => exact still (ticks_after ..) (of_spawn h.due nofun)
    | stop => exact still (ticks_after ..) fun k hk => (live_abort driven k hk).elim
  | wake k =>
    exact still (ticks_after ..) (driven.of_modify (live_of_wakes p) (·.begin t.now)
      (fun _ => rfl) fun d _ => d.keeps_begin h.steady h.past)
  | tick k => exact h.tick driven p
  | finish | elapse => exact still (ticks_after ..) h.due

/-- What every move that can happen keeps. -/
structure Regular (minInterval : Nat) (t : Thread α) : Prop where
  apart : t.Apart minInterval
  driven : t.Driven
  timed : t.Timed

theorem regular_new (minInterval now : Nat) :
    (new minInterval now : Thread α).Regular minInterval :=
  ⟨apart_new .., driven_new .., nofun, nofun, nofun⟩

theorem Regular.after (h : t.Regular minInterval) (p : t.Permits m) :
    (t.after m).Regular minInterval :=
  ⟨h.apart.after p, h.driven.after m, h.timed.after h.driven p⟩

theorem Regular.afterAll (h : t.Regular minInterval) {moves : List (Move α)}
    (allows : t.Allows moves) : (t.afterAll moves).Regular minInterval := by
  induction moves generalizing t with
  | nil => exact h
  | cons m moves ih => exact ih (h.after allows.1) allows.2

end

/-- What a queue keeps to, whoever calls it. -/
structure Throttled (minInterval : Nat) (t : Thread α) : Prop where
  apart : t.begun.Pairwise fun a b => a.time + minInterval ≤ b.time
  /-- A running queue has a driver that lives, its own, and a stopped one has none. -/
  live : ∀ k, t.Live k ↔ t.queue.driver = some k
  alone : ∀ j k, t.Live j → t.Live k → j = k
  steady : Steady t.ticks

/-- In any run jobs begin apart and only while the queue is running, one driver lives at most, and
    the ticks of all drivers together are as far apart as those of one. -/
theorem queue_throttled {minInterval now : Nat} {moves : List (Move α)}
    (allows : (new minInterval now).Allows moves) :
    ((new minInterval now).afterAll moves).Throttled minInterval ∧
    ∀ past m post, moves = past ++ m :: post →
      let t := (new minInterval now).afterAll past
      (t.after m).begun = t.begun ∨
        (t.after m).queue.isRunning ∧ (t.queue.isRunning ∨ m = .call .start) := by
  obtain ⟨hapart, hdriven, htimed⟩ := (regular_new ..).afterAll allows
  refine ⟨⟨hapart.apart, hdriven.live, fun j k hj hk => ?_, htimed.steady⟩, fun past m _ _ =>
    running_of_begun _ m⟩
  exact Option.some_inj.1 (((hdriven.live j).1 hj).symm.trans ((hdriven.live k).1 hk))

/-- A job that begins at a tick of the driver adds another one, stops the queue and starts it
    again before it comes to its end. -/
def restart : List (Move Nat) :=
  [.call .start, .wake 0, .call (.add 1), .call (.add 2), .finish, .elapse 100, .tick 0,
    .elapse 200, .tick 0, .call (.add 3), .call .stop, .call .start, .finish, .wake 1,
    .elapse 300, .tick 1, .elapse 400, .tick 1, .finish]

theorem restart_throttled :
    ((new 150 0).afterAll restart).Throttled 150 ∧
    ((new 150 0).afterAll restart).begun.map (fun b => (b.time, b.job)) =
      [(0, 1), (200, 2), (400, 3)] ∧
    ((new 150 0).afterAll restart).ticks = [100, 200, 300, 400] :=
  ⟨(queue_throttled (by decide)).1, by decide, by decide⟩

end Thread
end Harvest.JobQueue
