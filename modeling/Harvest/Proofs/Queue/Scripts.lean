import Harvest.Proofs.Queue.Pace
/-!
Scripts as runs of a thread. What a script has a queue do, with the jobs that it describes acting as
soon as they begin and the driver ticking whenever it is due, is one of the runs of a thread; so all
that holds of these holds of the jobs of a script.
-/

namespace Harvest.JobQueue

/-- The call that an action makes. A job is added together with what it does. -/
def Action.call : Action ι → Call (ι × List (Action ι))
  | .add job actions => .add (job, actions)
  | .start => .start
  | .stop => .stop

/-- A job that has begun, without what it does. -/
def Begun.plain (b : Begun (ι × List (Action ι))) : Begun ι := ⟨b.time, b.job.1, b.size⟩

namespace Thread

variable {t u v : Thread α}

/-- Whether a thread can come to be as another one is. -/
def Reaches (t u : Thread α) : Prop := ∃ moves, t.Allows moves ∧ t.afterAll moves = u

theorem Reaches.refl (t : Thread α) : t.Reaches t := ⟨[], trivial, rfl⟩

theorem Reaches.trans (h : t.Reaches u) (g : u.Reaches v) : t.Reaches v := by
  obtain ⟨moves, hmoves, rfl⟩ := h
  obtain ⟨more, hmore, rfl⟩ := g
  exact ⟨moves ++ more, (allows_append ..).2 ⟨hmoves, hmore⟩, afterAll_append ..⟩

theorem reaches_after {m : Move α} (p : t.Permits m) : t.Reaches (t.after m) :=
  ⟨[m], ⟨p, trivial⟩, rfl⟩

/-- All jobs that are running can come to their ends. -/
theorem reaches_rest (t : Thread α) : t.Reaches { t with running := [] } := by
  obtain ⟨now, queue, drivers, running, begun, ticks⟩ := t
  induction running with
  | nil => exact .refl _
  | cons job rest ih =>
    refine .trans (reaches_after (m := .finish) ?_) ih
    simp [Permits]

end Thread

namespace Run

section

variable {r : Run ι} {out : JobQueue (ι × List (Action ι)) × Option (ι × List (Action ι))}

@[simp] theorem settle_now : (r.settle out).1.now = r.now := by
  unfold settle
  split <;> rfl

@[simp] theorem settle_queue : (r.settle out).1.queue = out.1 := by
  unfold settle
  split <;> rfl

@[simp] theorem settle_due : (r.settle out).1.due = r.due := by
  unfold settle
  split <;> rfl

theorem settle_begun : (r.settle out).1.begun =
    r.begun ++ out.2.toList.map fun job => ⟨r.now, job.1, out.1.size⟩ := by
  unfold settle
  split <;> simp

@[simp] theorem apply_now (r : Run ι) (a : Action ι) : (r.apply a).1.now = r.now := by
  cases a <;> simp [apply]

theorem perform_now (fuel : Nat) (actions : List (Action ι)) (r : Run ι) :
    (perform fuel actions r).now = r.now := by
  induction fuel generalizing actions r with
  | zero => rfl
  | succ fuel ih =>
    cases actions with
    | nil => rfl
    | cons a rest => rw [perform, ih, apply_now]

end

/-- A thread that is as far as a script, while jobs may still be running. The driver that the queue
    had at the beginning, if it still has it, ticks next at `due`, and the script's own note of this
    may be behind; any other driver has not had its first turn. -/
structure Mirrors (driver : Option Nat) (due noted : Nat) (t : Thread (ι × List (Action ι)))
    (r : Run ι) : Prop where
  driven : t.Driven
  now : t.now = r.now
  queue : t.queue = r.queue
  begun : t.begun.map Begun.plain = r.begun
  older : ∀ k, driver = some k → k < t.queue.drivers
  due : ∀ k, t.queue.driver = some k →
    (driver = some k ∧ r.due = noted ∧ r.now ≤ due ∧
      ∃ d ∈ t.drivers[k]?, d.ticker = some ⟨tickPeriod, due⟩) ∨
    (driver ≠ some k ∧ r.due = r.now + tickPeriod ∧ ∃ d ∈ t.drivers[k]?, d.ticker = none)

/-- A thread that is as far as a script, with no job running. -/
structure Ready (t : Thread (ι × List (Action ι))) (r : Run ι) : Prop where
  driven : t.Driven
  now : t.now = r.now
  queue : t.queue = r.queue
  begun : t.begun.map Begun.plain = r.begun
  rests : t.running = []
  due : ∀ k, t.queue.driver = some k →
    r.now ≤ r.due ∧ ∃ d ∈ t.drivers[k]?, d.ticker = some ⟨tickPeriod, r.due⟩

section

variable {driver : Option Nat} {due noted : Nat} {t : Thread (ι × List (Action ι))} {r : Run ι}

theorem begun_settle {out : JobQueue (ι × List (Action ι)) × Option (ι × List (Action ι))}
    (now : t.now = r.now) (begun : t.begun.map Begun.plain = r.begun) :
    (t.settle out).begun.map Begun.plain = (r.settle out).1.begun := by
  simp [settle_begun, Thread.settle_begun, begun, now, Begun.plain, Function.comp_def]

theorem Mirrors.add (h : Mirrors driver due noted t r) (job : ι) (actions : List (Action ι)) :
    Mirrors driver due noted (t.after (.call (.add (job, actions))))
      (r.apply (.add job actions)).1 where
  driven := h.driven.after _
  now := by simp [Thread.after, apply, h.now]
  queue := by simp [Thread.after, apply, h.queue, h.now]
  begun := by
    rw [Thread.after, apply, h.queue, h.now]
    exact begun_settle h.now h.begun
  older k hk := by
    rw [Thread.count_after]
    exact h.older k hk
  due k hk := by
    rw [Thread.driver_after] at hk
    simpa [Thread.drivers_after, apply] using h.due k hk

theorem Mirrors.start (h : Mirrors driver due noted t r) :
    Mirrors driver due noted (t.after (.call .start)) (r.apply .start).1 where
  driven := h.driven.after _
  now := by simp [Thread.after, apply, h.now, Thread.spawn_now]
  queue := by simp [Thread.after, apply, h.queue, h.now]
  begun := by
    rw [Thread.after, apply, h.queue, h.now]
    refine begun_settle ?_ ?_
    · rw [Thread.spawn_now, h.now]
    · rw [Thread.spawn_begun, h.begun]
  older k hk := by
    have hlt := h.older k hk
    rw [Thread.count_after, Thread.changed]
    unfold started
    split
    · exact hlt
    · exact Nat.lt_succ_of_lt hlt
  due k hk := by
    rw [Thread.driver_after, Thread.changed] at hk
    rw [Thread.drivers_after]
    cases hd : t.queue.driver with
    | some j =>
      have hd' : r.queue.driver = some j := h.queue ▸ hd
      have hj := h.due k (by simpa [started, hd] using hk)
      simpa [Thread.spawn, isRunning, hd, hd', apply] using hj
    | none =>
      have hd' : r.queue.driver = none := h.queue ▸ hd
      obtain rfl : t.queue.drivers = k := by simpa [started, hd] using hk
      refine .inr ⟨fun hold => Nat.lt_irrefl _ (h.older _ hold), ?_, ⟨none, false⟩, ?_, rfl⟩
      · simp [apply, isRunning, hd']
      · simp [Thread.spawn, isRunning, hd, ← h.driven.count]

theorem Mirrors.stop (h : Mirrors driver due noted t r) :
    Mirrors driver due noted (t.after (.call .stop)) (r.apply .stop).1 where
  driven := h.driven.after _
  now := by simp [Thread.after, apply, h.now, Thread.abort_now]
  queue := by simp [Thread.after, apply, h.queue]
  begun := by simp [Thread.after, apply, h.begun, Thread.abort_begun]
  older k hk := by
    rw [Thread.count_after]
    exact h.older k hk
  due k hk := by simp [Thread.driver_after, Thread.changed, JobQueue.stop] at hk

theorem Mirrors.apply (h : Mirrors driver due noted t r) (a : Action ι) :
    Mirrors driver due noted (t.after (.call a.call)) (r.apply a).1 := by
  cases a with
  | add job actions => exact h.add job actions
  | start => exact h.start
  | stop => exact h.stop

theorem Mirrors.perform (h : Mirrors driver due noted t r) (fuel : Nat)
    (actions : List (Action ι)) :
    ∃ u, t.Reaches u ∧ Mirrors driver due noted u (perform fuel actions r) := by
  induction fuel generalizing t r actions with
  | zero => exact ⟨t, .refl t, h⟩
  | succ fuel ih =>
    cases actions with
    | nil => exact ⟨t, .refl t, h⟩
    | cons a rest =>
      obtain ⟨u, hu, hm⟩ := ih (h.apply a) ((r.apply a).2 ++ rest)
      exact ⟨u, .trans (Thread.reaches_after (m := .call a.call) trivial) hu, hm⟩

/-- When all jobs have come to their ends and a new driver has had its first turn, a thread is as
    far as a script that notes when the driver ticks next. -/
theorem Mirrors.rest (h : Mirrors driver due noted t r) (next : Nat)
    (hnext : ∀ k, r.queue.driver = some k → next = if driver = some k then due else r.due) :
    ∃ u, t.Reaches u ∧ Ready u { r with due := next } := by
  have hdriven : Thread.Driven { t with running := [] } :=
    ⟨h.driven.count, h.driven.live⟩
  have hrest := t.reaches_rest
  cases hd : t.queue.driver with
  | none =>
    exact ⟨_, hrest, hdriven, h.now, h.queue, h.begun, rfl, fun k hk => by simp [hd] at hk⟩
  | some k =>
    have hk := hnext k (h.queue ▸ hd)
    rcases h.due k hd with ⟨hold, hnoted, hle, d, hmem, hticker⟩ | ⟨hnew, hdue, d, hmem, hticker⟩
    · rw [if_pos hold] at hk
      refine ⟨_, hrest, hdriven, h.now, h.queue, h.begun, rfl, fun j hj => ?_⟩
      obtain rfl : k = j := Option.some_inj.1 (hd.symm.trans hj)
      exact ⟨hk ▸ hle, d, hmem, hk ▸ hticker⟩
    · rw [if_neg hnew] at hk
      have hlive : d.aborted = false := by
        have := (h.driven.live k).2 hd
        simpa [Thread.Live, Option.mem_def.1 hmem] using this
      have permitted : Thread.Permits { t with running := [] } (.wake k) :=
        ⟨rfl, by simp [Option.mem_def.1 hmem, Driver.isFresh, hlive, hticker]⟩
      refine ⟨_, hrest.trans (Thread.reaches_after permitted), hdriven.after _, h.now, h.queue,
        h.begun, rfl, fun j hj => ?_⟩
      obtain rfl : k = j := Option.some_inj.1 (hd.symm.trans hj)
      refine ⟨by simp only [hk, hdue]; omega, d.begin t.now, ?_, ?_⟩
      · simp [Thread.after, Thread.modifyDriver, Option.mem_def.1 hmem]
      · simp [Driver.begin, hk, hdue, h.now]

theorem Ready.mirrors (h : Ready t r) : Mirrors t.queue.driver r.due r.due t r where
  driven := h.driven
  now := h.now
  queue := h.queue
  begun := h.begun
  older k hk := by
    rw [← h.driven.count]
    exact ((h.driven.live k).2 hk).lt
  due k hk := .inl ⟨hk, rfl, h.due k hk⟩

theorem Ready.act (h : Ready t r) (actions : List (Action ι)) :
    ∃ u, t.Reaches u ∧ Ready u (r.act actions) := by
  obtain ⟨u, hu, hm⟩ := h.mirrors.perform (weights actions + r.waiting) actions
  obtain ⟨v, hv, hready⟩ := hm.rest (r.act actions).due fun k hk => by
    split
    · rename_i hold
      rcases hm.due k (hm.queue ▸ hk) with ⟨-, hnoted, -⟩ | ⟨hnew, -⟩
      · exact hnoted
      · exact absurd hold hnew
    · rfl
  exact ⟨v, hu.trans hv, hready⟩

theorem driverTick_eq {k : Nat} (h : r.queue.driver = some k) :
    let s := (r.settle (r.queue.tick r.now)).1.act (r.settle (r.queue.tick r.now)).2
    r.driverTick =
      { s with due := if s.queue.driver = some k then r.due + tickPeriod else s.due } := by
  simp only [driverTick, h]
  split <;> rfl

/-- The driver of the queue ticks just when it is due, and sets its timer again. -/
theorem Ready.ticks (h : Ready t r) {k : Nat} (hk : r.queue.driver = some k)
    (due : r.due = r.now) : t.Permits (.tick k) ∧
      Mirrors (some k) (r.due + tickPeriod) r.due (t.after (.tick k))
        (r.settle (r.queue.tick r.now)).1 := by
  have hk' : t.queue.driver = some k := by rw [h.queue, hk]
  have hlive := (h.driven.live k).2 hk'
  obtain ⟨-, d, hmem, hticker⟩ := h.due k hk'
  have hd : t.drivers[k]? = some d := hmem
  have haborted : d.aborted = false := by simpa [Thread.Live, hd] using hlive
  refine ⟨⟨h.rests, by simp [hd, Driver.isDue, haborted, hticker, due, h.now]⟩,
    h.driven.after _, ?_, ?_, ?_, fun j hj => ?_, fun j hj => ?_⟩
  · simp [Thread.after, Thread.modifyDriver, h.now]
  · simp [Thread.after, Thread.modifyDriver, h.now, h.queue]
  · rw [Thread.after, ← h.queue, ← h.now]
    exact begun_settle h.now h.begun
  · obtain rfl := Option.some_inj.1 hj
    rw [Thread.count_after]
    exact h.driven.count ▸ hlive.lt
  · obtain rfl : k = j :=
      Option.some_inj.1 (hk'.symm.trans ((Thread.driver_after ..).symm.trans hj))
    refine .inl ⟨rfl, settle_due, by simp [due], d.next t.now, ?_, ?_⟩
    · simp [Thread.drivers_after, hd]
    · simp [Driver.next, hticker, Ticker.next, h.now, due]

theorem Ready.driverTick (h : Ready t r) (running : r.queue.isRunning) (due : r.due = r.now) :
    ∃ u, t.Reaches u ∧ Ready u r.driverTick ∧ r.driverTick.now = r.now ∧
      (r.driverTick.queue.isRunning → r.driverTick.due = r.now + tickPeriod) := by
  obtain ⟨k, hk⟩ := Option.isSome_iff_exists.1 running
  obtain ⟨permitted, ticked⟩ := h.ticks hk due
  have heq := driverTick_eq hk
  have hnow : (r.settle (r.queue.tick r.now)).1.now = r.now := settle_now
  generalize r.settle (r.queue.tick r.now) = start at ticked heq hnow
  obtain ⟨u, hu, hm⟩ := ticked.perform (weights start.2 + start.1.waiting) start.2
  rw [← perform_now (weights start.2 + start.1.waiting) start.2] at hnow
  change Mirrors _ _ _ u (start.1.act start.2) at hm
  change (start.1.act start.2).now = r.now at hnow
  generalize start.1.act start.2 = s at hm heq hnow
  obtain ⟨v, hv, hready⟩ := hm.rest r.driverTick.due fun j hj => by
    rw [heq, hj]
    simp [eq_comm]
  have htick : { s with due := r.driverTick.due } = r.driverTick := by rw [heq]
  refine ⟨v, ((Thread.reaches_after permitted).trans hu).trans hv, htick ▸ hready, ?_, ?_⟩
  · rw [heq]
    exact hnow
  · rw [heq]
    intro hrunning
    obtain ⟨j, hj⟩ := Option.isSome_iff_exists.1 hrunning
    dsimp only at hj ⊢
    split
    · rw [due]
    · rename_i hne
      rcases hm.due j (hm.queue ▸ hj) with ⟨hold, -⟩ | ⟨-, hdue, -⟩
      · exact absurd (hj.trans hold.symm) hne
      · rw [hdue, hnow]

theorem Ready.elapse (h : Ready t r) {now : Nat} (le : r.now ≤ now)
    (soon : r.queue.isRunning → now ≤ r.due) :
    ∃ u, t.Reaches u ∧ Ready u { r with now := now } := by
  have permitted : t.Permits (.elapse now) := by
    rw [Thread.Permits, h.now]
    exact le
  refine ⟨_, Thread.reaches_after permitted, h.driven.after _, rfl, h.queue, h.begun, h.rests,
    fun k hk => ⟨soon ?_, (h.due k hk).2⟩⟩
  have hk' : t.queue.driver = some k := hk
  simp [isRunning, ← h.queue, hk']

/-- Time passes up to an instant, with as many ticks as the driver is due for. -/
theorem Ready.passTo {instant : Nat} (fuel : Nat) (h : Ready t r) (le : r.now ≤ instant)
    (enough : r.queue.isRunning → instant < r.due + fuel * tickPeriod) :
    ∃ u, t.Reaches u ∧ Ready u (passTo instant fuel r) := by
  induction fuel generalizing t r with
  | zero =>
    refine h.elapse le fun hr => ?_
    have := enough hr
    omega
  | succ fuel ih =>
    unfold Run.passTo
    split
    · rename_i hdue
      simp only [Bool.and_eq_true, decide_eq_true_eq] at hdue
      obtain ⟨hrunning, hdue⟩ := hdue
      obtain ⟨k, hk⟩ := Option.isSome_iff_exists.1 hrunning
      have hle := (h.due k (h.queue ▸ hk)).1
      obtain ⟨u, hu, hready⟩ := h.elapse hle fun _ => Nat.le_refl _
      obtain ⟨v, hv, hticked, hnow, hnext⟩ := hready.driverTick hrunning rfl
      obtain ⟨w, hw, hdone⟩ := ih hticked (by rw [hnow]; exact hdue) fun hr => by
        have := enough hrunning
        rw [hnext hr]
        simp only [tickPeriod] at *
        omega
      exact ⟨w, (hu.trans hv).trans hw, hdone⟩
    · rename_i hdue
      refine h.elapse le fun hr => ?_
      simp only [hr, Bool.true_and, decide_eq_true_eq] at hdue
      omega

theorem Ready.sleep (h : Ready t r) (ms : Nat) : ∃ u, t.Reaches u ∧ Ready u (r.sleep ms) := by
  refine h.passTo _ (Nat.le_add_right ..) fun hr => ?_
  obtain ⟨k, hk⟩ := Option.isSome_iff_exists.1 hr
  have hle := (h.due k (h.queue ▸ hk)).1
  simp only [tickPeriod]
  omega

end

/-- A step of a script: the host acts, or lets time pass. -/
inductive Step (ι : Type)
  | act (a : Action ι)
  | sleep (ms : Nat)

def step (r : Run ι) : Step ι → Run ι
  | .act a => r.act [a]
  | .sleep ms => r.sleep ms

def play (minInterval : Nat) (steps : List (Step ι)) : Run ι := steps.foldl step (.new minInterval)

theorem Ready.steps {t : Thread (ι × List (Action ι))} {r : Run ι} (h : Ready t r)
    (steps : List (Step ι)) : ∃ u, t.Reaches u ∧ Ready u (steps.foldl step r) := by
  induction steps generalizing t r with
  | nil => exact ⟨t, .refl t, h⟩
  | cons s rest ih =>
    obtain ⟨u, hu, hready⟩ : ∃ u, t.Reaches u ∧ Ready u (r.step s) := by
      cases s with
      | act a => exact h.act [a]
      | sleep ms => exact h.sleep ms
    obtain ⟨v, hv, hdone⟩ := ih hready
    exact ⟨v, hu.trans hv, hdone⟩

/-- Every script is a run of a thread. -/
theorem reaches_play (minInterval : Nat) (steps : List (Step ι)) :
    ∃ t, (Thread.new minInterval 0).Reaches t ∧ Ready t (play minInterval steps) := by
  have first : Ready (Thread.new minInterval 0) (.new minInterval : Run ι) :=
    ⟨Thread.driven_new .., rfl, rfl, rfl, rfl, nofun⟩
  exact first.steps steps

/-- The jobs of a script begin apart. -/
theorem play_apart (minInterval : Nat) (steps : List (Step ι)) :
    (play minInterval steps).begun.Pairwise fun a b => a.time + minInterval ≤ b.time := by
  obtain ⟨t, ⟨moves, allows, rfl⟩, hready⟩ := reaches_play minInterval steps
  have hapart := ((Thread.regular_new minInterval 0).afterAll allows).apart.apart
  rw [← hready.begun, List.pairwise_map]
  exact hapart

end Run
end Harvest.JobQueue
