/-!
A queue of jobs with pauses between them. Jobs begin in the order in which they were added, only
while the queue is running, and never two of them within the least interval. A driver ticks
periodically while the queue is running. Every operation tells which job begins, if one does; what
that job does to the queue comes after the operation.
-/

namespace Harvest

/-- Time between two ticks of a driver. -/
def tickPeriod : Nat := 100

structure JobQueue (α : Type) where
  minInterval : Nat
  /-- The jobs that have not begun. -/
  pending : List α
  /-- When the last job began. -/
  lastRun : Option Nat
  /-- The number of the driver that is running. -/
  driver : Option Nat
  /-- How many drivers were ever started. -/
  drivers : Nat

namespace JobQueue

def empty (minInterval : Nat) : JobQueue α := ⟨minInterval, [], none, none, 0⟩

def size (q : JobQueue α) : Nat := q.pending.length

def isRunning (q : JobQueue α) : Bool := q.driver.isSome

/-- Whether the last job began long enough ago. -/
def isRested (q : JobQueue α) (now : Nat) : Bool :=
  match q.lastRun with
  | none => true
  | some last => q.minInterval ≤ now - last

/-- Begins the oldest job if the queue is running and rested. -/
def tick (q : JobQueue α) (now : Nat) : JobQueue α × Option α :=
  if q.isRunning && q.isRested now then
    match q.pending with
    | [] => (q, none)
    | job :: rest => ({ q with pending := rest, lastRun := some now }, some job)
  else (q, none)

/-- Adds a job. A running queue that was empty ticks. -/
def add (q : JobQueue α) (now : Nat) (job : α) : JobQueue α × Option α :=
  let r := { q with pending := q.pending ++ [job] }
  if q.isRunning && q.pending.isEmpty then r.tick now else (r, none)

/-- Starts a driver and ticks, unless the queue is running. -/
def start (q : JobQueue α) (now : Nat) : JobQueue α × Option α :=
  match q.driver with
  | some _ => (q, none)
  | none => { q with driver := some q.drivers, drivers := q.drivers + 1 }.tick now

/-- Ends the driver. Jobs that have not begun stay. -/
def stop (q : JobQueue α) : JobQueue α := { q with driver := none }

/-- A tick of a driver; one that has ended does nothing. -/
def drive (q : JobQueue α) (driver now : Nat) : JobQueue α × Option α :=
  if q.driver = some driver then q.tick now else (q, none)

end JobQueue
end Harvest
