import Harvest.Queue
import Harvest.Queue.Run
import Harvest.Ticker
/-!
A queue on one thread. Each operation first changes the queue without any job beginning, and then it
ticks or leaves it at that. The operations are called one after the other, also by jobs that are
running, and drivers take turns with whoever calls them. A job that begins in an operation runs
before the caller goes on, and nothing of the operation comes after it. A driver goes on when nobody
else does, and one that was aborted never again. No job is lost, begins twice or overtakes another.
-/

/-! The operations -/

namespace Harvest.JobQueue

variable {α : Type} {q : JobQueue α} {now : Nat} {a : α} {out : JobQueue α × Option α}

/-- What comes of a queue that may tick. -/
inductive Ticks (q : JobQueue α) (now : Nat) : JobQueue α × Option α → Prop
  | rests : q.Ticks now (q, none)
  | begins {job : α} {rest : List α} : q.isRunning → q.isRested now → q.pending = job :: rest →
      q.Ticks now ({ q with pending := rest, lastRun := some now }, some job)

/-- A queue with one more job. -/
def appended (q : JobQueue α) (job : α) : JobQueue α := { q with pending := q.pending ++ [job] }

/-- A queue with a driver, a new one if there was none. -/
def started (q : JobQueue α) : JobQueue α :=
  match q.driver with
  | some _ => q
  | none => { q with driver := some q.drivers, drivers := q.drivers + 1 }

theorem ticks_tick (q : JobQueue α) (now : Nat) : q.Ticks now (q.tick now) := by
  unfold tick
  split
  · rename_i h
    obtain ⟨hrunning, hrested⟩ := (Bool.and_eq_true ..).mp h
    split
    · exact .rests
    · exact .begins hrunning hrested ‹_›
  · exact .rests

theorem ticks_add (q : JobQueue α) (now : Nat) (job : α) :
    (q.appended job).Ticks now (q.add now job) := by
  unfold add
  split
  · exact ticks_tick _ now
  · exact .rests

theorem ticks_start (q : JobQueue α) (now : Nat) : q.started.Ticks now (q.start now) := by
  cases hd : q.driver with
  | some k =>
    simp only [started, start, hd]
    exact .rests
  | none =>
    simp only [started, start, hd]
    exact ticks_tick _ now

theorem ticks_drive (q : JobQueue α) (driver now : Nat) : q.Ticks now (q.drive driver now) := by
  unfold drive
  split
  · exact ticks_tick q now
  · exact .rests

@[simp] theorem started_pending (q : JobQueue α) : q.started.pending = q.pending := by
  unfold started
  split <;> rfl

@[simp] theorem started_lastRun (q : JobQueue α) : q.started.lastRun = q.lastRun := by
  unfold started
  split <;> rfl

@[simp] theorem started_minInterval (q : JobQueue α) :
    q.started.minInterval = q.minInterval := by
  unfold started
  split <;> rfl

/-! A tick does nothing to the drivers. -/

theorem Ticks.driver (h : q.Ticks now out) : out.1.driver = q.driver := by
  cases h <;> rfl

theorem Ticks.drivers (h : q.Ticks now out) : out.1.drivers = q.drivers := by
  cases h <;> rfl

theorem Ticks.minInterval (h : q.Ticks now out) : out.1.minInterval = q.minInterval := by
  cases h <;> rfl

/-! What an operation gives out was the oldest job; the others stay in their order. -/

theorem Ticks.split (h : q.Ticks now out) : out.2.toList ++ out.1.pending = q.pending := by
  cases h with
  | rests => rfl
  | begins _ _ hq => exact hq.symm

theorem start_split (q : JobQueue α) (now : Nat) :
    (q.start now).2.toList ++ (q.start now).1.pending = q.pending :=
  (ticks_start q now).split.trans (started_pending q)

theorem drive_split (q : JobQueue α) (driver now : Nat) :
    (q.drive driver now).2.toList ++ (q.drive driver now).1.pending = q.pending :=
  (ticks_drive q driver now).split

theorem add_split (q : JobQueue α) (now : Nat) (job : α) :
    (q.add now job).2.toList ++ (q.add now job).1.pending = q.pending ++ [job] :=
  (ticks_add q now job).split

theorem mem_start_pending (h : a ∈ (q.start now).1.pending) : a ∈ q.pending := by
  rw [← start_split q now]
  exact List.mem_append_right _ h

theorem mem_of_start (h : (q.start now).2 = some a) : a ∈ q.pending := by
  rw [← start_split q now, h]
  exact List.mem_cons_self

theorem mem_drive_pending {driver : Nat} (h : a ∈ (q.drive driver now).1.pending) :
    a ∈ q.pending := by
  rw [← drive_split q driver now]
  exact List.mem_append_right _ h

theorem mem_of_drive {driver : Nat} (h : (q.drive driver now).2 = some a) : a ∈ q.pending := by
  rw [← drive_split q driver now, h]
  exact List.mem_cons_self

theorem mem_add_pending {job : α} (h : a ∈ (q.add now job).1.pending) :
    a ∈ q.pending ++ [job] := by
  rw [← add_split q now job]
  exact List.mem_append_right _ h

theorem mem_of_add {job : α} (h : (q.add now job).2 = some a) : a ∈ q.pending ++ [job] := by
  rw [← add_split q now job, h]
  exact List.mem_cons_self

end Harvest.JobQueue

/-! Operations on a thread -/

namespace Harvest.JobQueue

/-- A driver. It has its timer from its first turn on. -/
structure Driver where
  ticker : Option Ticker
  aborted : Bool

/-- Whether a driver can have its first turn. -/
def Driver.isFresh (d : Driver) : Bool := !d.aborted && d.ticker.isNone

/-- Whether a driver can tick. -/
def Driver.isDue (d : Driver) (now : Nat) : Bool :=
  !d.aborted && d.ticker.any fun t => t.due ≤ now

/-- A driver with its timer set. -/
def Driver.begin (d : Driver) (now : Nat) : Driver :=
  { d with ticker := some ⟨tickPeriod, now + tickPeriod⟩ }

/-- A driver whose timer has gone off. -/
def Driver.next (d : Driver) (now : Nat) : Driver :=
  { d with ticker := d.ticker.map (·.next now) }

def Driver.abort (d : Driver) : Driver := { d with aborted := true }

structure Thread (α : Type) where
  now : Nat
  queue : JobQueue α
  /-- The drivers that were ever started, by their numbers. -/
  drivers : List Driver
  /-- The jobs that are running, the innermost first. -/
  running : List α
  /-- The jobs that have begun, in order. -/
  begun : List (Begun α)
  /-- When drivers have ticked. -/
  ticks : List Nat

/-- What may be called at any time, by a job as well. -/
inductive Call (α : Type)
  | add (job : α)
  | start
  | stop

inductive Move (α : Type)
  | call (c : Call α)
  /-- A driver has its first turn. -/
  | wake (driver : Nat)
  /-- A driver goes on at a tick of its timer. -/
  | tick (driver : Nat)
  /-- The innermost job comes to its end. -/
  | finish
  | elapse (now : Nat)

/-- The job that a move adds. -/
def Move.added? : Move α → Option α
  | .call (.add job) => some job
  | _ => none

namespace Thread

def new (minInterval now : Nat) : Thread α := ⟨now, .empty minInterval, [], [], [], []⟩

/-- Takes what an operation of the queue leaves, and has the job run that begins. -/
def settle (t : Thread α) : JobQueue α × Option α → Thread α
  | (queue, none) => { t with queue := queue }
  | (queue, some job) =>
    { t with
      queue := queue, running := job :: t.running,
      begun := t.begun ++ [⟨t.now, job, queue.size⟩] }

def modifyDriver (t : Thread α) (driver : Nat) (f : Driver → Driver) : Thread α :=
  { t with drivers := t.drivers.modify driver f }

/-- Has a new driver begin if the queue has none. -/
def spawn (t : Thread α) : Thread α :=
  if t.queue.isRunning then t else { t with drivers := t.drivers ++ [⟨none, false⟩] }

/-- Aborts the driver of the queue. -/
def abort (t : Thread α) : Thread α :=
  match t.queue.driver with
  | none => t
  | some k => t.modifyDriver k Driver.abort

def after (t : Thread α) : Move α → Thread α
  | .call (.add job) => t.settle (t.queue.add t.now job)
  | .call .start => t.spawn.settle (t.queue.start t.now)
  | .call .stop => t.abort.settle (t.queue.stop, none)
  | .wake k => t.modifyDriver k (·.begin t.now)
  | .tick k =>
    let t := t.modifyDriver k (·.next t.now)
    { t with ticks := t.ticks ++ [t.now] }.settle (t.queue.tick t.now)
  | .finish => { t with running := t.running.tail }
  | .elapse now => { t with now := now }

/-- Whether a move can happen. Drivers go on only when no job is running. -/
def Permits (t : Thread α) : Move α → Prop
  | .call _ => True
  | .wake k => t.running = [] ∧ t.drivers[k]?.any Driver.isFresh
  | .tick k => t.running = [] ∧ t.drivers[k]?.any (Driver.isDue · t.now)
  | .finish => t.running ≠ []
  | .elapse now => t.now ≤ now

/-- Whether some moves can happen one after the other. -/
def Allows (t : Thread α) : List (Move α) → Prop
  | [] => True
  | m :: rest => t.Permits m ∧ (t.after m).Allows rest

instance (t : Thread α) : (m : Move α) → Decidable (t.Permits m)
  | .call _ => inferInstanceAs (Decidable True)
  | .wake _ | .tick _ => inferInstanceAs (Decidable (_ ∧ _))
  | .finish => inferInstanceAs (Decidable (¬ _))
  | .elapse now => inferInstanceAs (Decidable (t.now ≤ now))

instance decidableAllows (t : Thread α) : (moves : List (Move α)) → Decidable (t.Allows moves)
  | [] => inferInstanceAs (Decidable True)
  | m :: rest =>
    have := decidableAllows (t.after m) rest
    inferInstanceAs (Decidable (t.Permits m ∧ (t.after m).Allows rest))

def afterAll (t : Thread α) (moves : List (Move α)) : Thread α := moves.foldl after t

@[simp] theorem afterAll_nil (t : Thread α) : t.afterAll [] = t := rfl

@[simp] theorem afterAll_cons (t : Thread α) (m : Move α) (moves : List (Move α)) :
    t.afterAll (m :: moves) = (t.after m).afterAll moves := rfl

theorem afterAll_append (t : Thread α) (moves more : List (Move α)) :
    t.afterAll (moves ++ more) = (t.afterAll moves).afterAll more := List.foldl_append

theorem allows_append (t : Thread α) (moves more : List (Move α)) :
    t.Allows (moves ++ more) ↔ t.Allows moves ∧ (t.afterAll moves).Allows more := by
  induction moves generalizing t with
  | nil => simp [Allows]
  | cons m moves ih => simp [Allows, ih, and_assoc]

section

variable {t : Thread α} {out : JobQueue α × Option α}

@[simp] theorem settle_now (t : Thread α) (out : JobQueue α × Option α) :
    (t.settle out).now = t.now := by
  unfold settle
  split <;> rfl

@[simp] theorem settle_queue (t : Thread α) (out : JobQueue α × Option α) :
    (t.settle out).queue = out.1 := by
  unfold settle
  split <;> rfl

@[simp] theorem settle_drivers (t : Thread α) (out : JobQueue α × Option α) :
    (t.settle out).drivers = t.drivers := by
  unfold settle
  split <;> rfl

@[simp] theorem settle_ticks (t : Thread α) (out : JobQueue α × Option α) :
    (t.settle out).ticks = t.ticks := by
  unfold settle
  split <;> rfl

@[simp] theorem settle_begun (t : Thread α) (out : JobQueue α × Option α) :
    (t.settle out).begun = t.begun ++ out.2.toList.map (⟨t.now, ·, out.1.size⟩) := by
  unfold settle
  split <;> simp

/-- A queue as a move changes it before it ticks, if it does. -/
def changed (t : Thread α) : Move α → JobQueue α
  | .call (.add job) => t.queue.appended job
  | .call .start => t.queue.started
  | .call .stop => t.queue.stop
  | _ => t.queue

theorem spawn_begun (t : Thread α) : t.spawn.begun = t.begun := by
  unfold spawn
  split <;> rfl

theorem spawn_now (t : Thread α) : t.spawn.now = t.now := by
  unfold spawn
  split <;> rfl

theorem abort_begun (t : Thread α) : t.abort.begun = t.begun := by
  unfold abort
  split <;> rfl

/-- A move has the queue tick, at most once, after it has changed it. -/
theorem exists_ticks (t : Thread α) (m : Move α) :
    ∃ out, (t.changed m).Ticks t.now out ∧ (t.after m).queue = out.1 ∧
      (t.after m).begun = t.begun ++ out.2.toList.map (⟨t.now, ·, out.1.size⟩) := by
  cases m with
  | call c =>
    cases c with
    | add job => exact ⟨_, ticks_add t.queue t.now job, settle_queue .., settle_begun ..⟩
    | start =>
      refine ⟨_, ticks_start t.queue t.now, settle_queue .., ?_⟩
      rw [after, settle_begun, spawn_begun, spawn_now]
    | stop =>
      refine ⟨_, .rests, settle_queue .., ?_⟩
      rw [after, settle_begun, abort_begun]
      rfl
  | tick k => exact ⟨_, ticks_tick t.queue t.now, settle_queue .., settle_begun ..⟩
  | wake | finish | elapse => exact ⟨_, .rests, rfl, (List.append_nil _).symm⟩

end

end Thread
end Harvest.JobQueue

/-! The order of the jobs -/

namespace Harvest.JobQueue.Thread

/-- The jobs that have begun, and after them those that have not. -/
def jobs (t : Thread α) : List α := t.begun.map (·.job) ++ t.queue.pending

theorem changed_pending (t : Thread α) (m : Move α) :
    (t.changed m).pending = t.queue.pending ++ m.added?.toList := by
  cases m with
  | call c =>
    cases c with
    | add job => rfl
    | start => simp [changed, Move.added?]
    | stop => simp [changed, Move.added?, JobQueue.stop]
  | wake | tick | finish | elapse => simp [changed, Move.added?]

/-- A move puts the jobs that it adds behind all others. -/
theorem jobs_after (t : Thread α) (m : Move α) : (t.after m).jobs = t.jobs ++ m.added?.toList := by
  obtain ⟨out, hticks, hqueue, hbegun⟩ := t.exists_ticks m
  have hsplit : out.2.toList ++ out.1.pending = t.queue.pending ++ m.added?.toList :=
    hticks.split.trans (t.changed_pending m)
  simp only [jobs, hqueue, hbegun, List.map_append, List.map_map, List.append_assoc]
  rw [← hsplit]
  simp [Function.comp_def]

theorem jobs_afterAll (t : Thread α) (moves : List (Move α)) :
    (t.afterAll moves).jobs = t.jobs ++ moves.filterMap Move.added? := by
  induction moves generalizing t with
  | nil => simp
  | cons m moves ih =>
    rw [afterAll_cons, ih, jobs_after, List.append_assoc]
    cases h : m.added? <;> simp [h]

/-- After any moves, the jobs that have begun and then those that have not are the jobs that were
    added, in the order in which they were added. A stop leaves both as they are, and a restart
    loses none. -/
theorem jobs_begin_in_order (minInterval now : Nat) (moves : List (Move α)) :
    let t := (new minInterval now).afterAll moves
    let stopped := t.after (.call .stop)
    let restarted := stopped.after (.call .start)
    t.begun.map (·.job) ++ t.queue.pending = moves.filterMap Move.added? ∧
    t.begun.length + t.queue.size = (moves.filterMap Move.added?).length ∧
    stopped.begun = t.begun ∧ stopped.queue.pending = t.queue.pending ∧
    restarted.begun.map (·.job) ++ restarted.queue.pending =
      t.begun.map (·.job) ++ t.queue.pending := by
  intro t stopped restarted
  have hjobs : t.jobs = moves.filterMap Move.added? := jobs_afterAll ..
  have hrestarted : restarted.jobs = t.jobs := by
    rw [jobs_after, jobs_after]
    simp [Move.added?]
  refine ⟨hjobs, ?_, ?_, ?_, hrestarted⟩
  · rw [← hjobs, jobs, List.length_append, List.length_map]
    rfl
  · simp [stopped, after, abort_begun]
  · simp [stopped, after, JobQueue.stop]

end Harvest.JobQueue.Thread
