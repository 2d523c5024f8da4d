import Harvest.Queue
/-!
Runs of a queue whose jobs act on the queue themselves. What a job does comes as soon as it
begins, before anything that follows.
-/

namespace Harvest.JobQueue

/-- An action on a queue; a job that is added has actions of its own. -/
inductive Action (ι : Type)
  | add (job : ι) (actions : List (Action ι))
  | start
  | stop

instance : Inhabited (Action ι) := ⟨.start⟩

/-- A job that has begun, with the number of jobs that were waiting then. -/
structure Begun (ι : Type) where
  time : Nat
  job : ι
  size : Nat

/-- A queue in time. -/
structure Run (ι : Type) where
  now : Nat
  queue : JobQueue (ι × List (Action ι))
  /-- When the running driver ticks next. -/
  due : Nat
  /-- The jobs that have begun, in order. -/
  begun : List (Begun ι)

namespace Run

def new (minInterval : Nat) : Run ι := ⟨0, .empty minInterval, 0, []⟩

mutual

def weight : Action ι → Nat
  | .add _ actions => weights actions + 1
  | .start => 1
  | .stop => 1

def weights : List (Action ι) → Nat
  | [] => 0
  | a :: r => weight a + weights r

end

/-- Takes what an operation of the queue leaves, and the actions of the job that begins. -/
def settle (r : Run ι) (q : JobQueue (ι × List (Action ι)) × Option (ι × List (Action ι))) :
    Run ι × List (Action ι) :=
  match q with
  | (queue, none) => ({ r with queue := queue }, [])
  | (queue, some (job, actions)) =>
    ({ r with queue := queue, begun := r.begun ++ [⟨r.now, job, queue.size⟩] }, actions)

def apply (r : Run ι) : Action ι → Run ι × List (Action ι)
  | .add job actions => r.settle (r.queue.add r.now (job, actions))
  | .start =>
    let due := if r.queue.isRunning then r.due else r.now + tickPeriod
    { r with due := due }.settle (r.queue.start r.now)
  | .stop => ({ r with queue := r.queue.stop }, [])

/-- Performs at most `fuel` actions, those of jobs that begin included. -/
def perform : (fuel : Nat) → List (Action ι) → Run ι → Run ι
  | 0, _, r => r
  | _ + 1, [], r => r
  | fuel + 1, a :: rest, r =>
    let (r, actions) := r.apply a
    perform fuel (actions ++ rest) r

/-- The number of actions that wait in the queue. -/
def waiting (r : Run ι) : Nat := weights (r.queue.pending.flatMap (·.2))

/-- Performs some actions and those of the jobs that begin. -/
def act (r : Run ι) (actions : List (Action ι)) : Run ι :=
  perform (weights actions + r.waiting) actions r

/-- A tick of the running driver. The driver goes on unless the job has put an end to it. -/
def driverTick (r : Run ι) : Run ι :=
  let driver := r.queue.driver
  let (s, actions) := r.settle (r.queue.tick r.now)
  let s := s.act actions
  if s.queue.driver = driver then { s with due := r.due + tickPeriod } else s

/-- Lets time pass up to an instant, with at most `fuel` ticks. -/
def passTo (instant : Nat) : (fuel : Nat) → Run ι → Run ι
  | 0, r => { r with now := instant }
  | fuel + 1, r =>
    if r.queue.isRunning && r.due ≤ instant then
      passTo instant fuel { r with now := r.due }.driverTick
    else { r with now := instant }

/-- Lets some time pass. -/
def sleep (r : Run ι) (ms : Nat) : Run ι := passTo (r.now + ms) (ms / tickPeriod + 1) r

end Run
end Harvest.JobQueue
