import Harvest.Rehearsal.Transport
import Harvest.Sync.Run
/-!
A client in virtual time, with a transport that follows a script. The clock stands still while
something can go on, and then jumps to the next instant that is waited for. What becomes possible
at the same instant goes on in the order in which it was begun, but the host comes first.
-/

namespace Harvest.Rehearsal

open Sync

/-- An instant at which a task is told something. -/
structure Alarm where
  due : Nat
  task : TaskId
  signal : Signal

structure Stage where
  client : Client
  script : Script
  /-- The alarms in the order in which they were set. -/
  alarms : List Alarm
  /-- The tasks that can go on, in the order in which they came to. -/
  ready : List (TaskId × Signal)
  /-- The task that the host waits for. -/
  host : TaskId
  /-- Whether the host executes jobs while it waits for nothing else. -/
  isWorker : Bool
  /-- The number of signs that the host has taken note of. -/
  noted : Nat

namespace Stage

def new (c : Client) (script : Script) (isWorker : Bool) : Stage :=
  ⟨c, script, [], [], 0, isWorker, 0⟩

def now (s : Stage) : Nat := s.client.now.clock

def setTime (s : Stage) (now : Nat) : Stage :=
  { s with client := { s.client with now := { s.client.now with clock := now } } }

/-- Whether a task can go on as soon as it is its turn. -/
def isTurn : Wait → Bool
  | .turn => true
  | .granted .. => true
  | _ => false

/-- Adds the tasks that can go on now, but for the one that is just going on. -/
def collect (s : Stage) (playing : TaskId) : Stage :=
  let fresh := s.client.tasks.filter fun t =>
    isTurn t.wait && t.id ≠ playing && !(s.ready.any fun r => r.1 = t.id)
  { s with ready := s.ready ++ fresh.map fun t => (t.id, .go) }

/-- What a task is told at some instant: at once, or by an alarm. -/
def tell (s : Stage) (task : TaskId) (due : Nat) (signal : Signal) : Option Signal × Stage :=
  if due ≤ s.now then (some signal, s)
  else (none, { s with alarms := s.alarms ++ [⟨due, task, signal⟩] })

/-- What a timer is told, which may have lost its token. Where its time has come as well, either may
    be told first; here it is the time. -/
def tellTimer (s : Stage) (task : TaskId) (token : Token) (due : Nat) : Option Signal × Stage :=
  if s.now < due && s.client.isCancelled token then (some .cancelled, s) else s.tell task due .go

/-- Sees to a task that has come to a wait. -/
def attend (s : Stage) (t : Task) : Option Signal × Stage :=
  match t.wait with
  | .turn => (some .go, s)
  | .granted .. => (some .go, s)
  | .lock .. => (none, s)
  | .tick _ token ticker => s.tellTimer t.id token ticker.due
  | .resume _ token due _ => s.tellTimer t.id token due
  | .drive _ ticker => s.tell t.id ticker.due .go
  | .permission _ server => (some (.permitted (s.client.allowed server)), s)
  | w =>
    match w.request? with
    | none => (none, s)
    | some r =>
      let (scripted, script) := s.script.answer s.client.settings.requestTimeout r
      { s with script := script }.tell t.id (s.now + scripted.delay) (.reply scripted.reply)

/-- The signal for a task that could go on before, which may have lost its token in the meantime. -/
def current (s : Stage) (task : TaskId) (signal : Signal) : Signal :=
  match (s.client.task? task).map Task.wait with
  | some (.tick _ token _) => if s.client.isCancelled token then .cancelled else signal
  | some (.resume _ token _ _) => if s.client.isCancelled token then .cancelled else signal
  | _ => signal

/-- The task that is playing, after it has acted. -/
def acted (s : Stage) (task : TaskId) : Option Signal × Stage :=
  let s := s.collect task
  match s.client.task? task with
  | none => (none, s)
  | some t => s.attend t

/-- Has a task go on for as long as no time needs to pass, with at most `fuel` signals. -/
def play (task : TaskId) : (fuel : Nat) → Option Signal × Stage → Stage
  | _, (none, s) => s
  | 0, (_, s) => s
  | fuel + 1, (some signal, s) =>
    match s.client.task? task with
    | none => s
    | some t => play task fuel ({ s with client := s.client.wake t signal }.acted task)

/-- Whether the host waits for nothing. -/
def isIdle (s : Stage) : Bool := (s.client.task? s.host).isNone

/-- Has a working host take note of the jobs that it is told to run. -/
def serve (s : Stage) : Stage :=
  if s.isWorker && s.isIdle then
    let jobs := (s.client.signs.drop s.noted).filterMap fun
      | (_, .event (.runJob job)) => some job
      | _ => none
    let client := jobs.foldl (fun c job => c.spawn [.execute job]) s.client
    { s with client := client, noted := client.signs.length }.collect s.host
  else s

/-- The next task to go on, and the others. -/
def nextReady? (s : Stage) : Option ((TaskId × Signal) × List (TaskId × Signal)) :=
  match s.ready.find? fun r => r.1 = s.host with
  | some r => some (r, s.ready.filter fun r => r.1 ≠ s.host)
  | none =>
    match s.ready with
    | [] => none
    | r :: rest => some (r, rest)

def nextDue? (s : Stage) : Option Nat := (s.alarms.map (·.due)).min?

/-- Lets the clock jump, and has the alarms of that instant go off. -/
def jump (s : Stage) (now : Nat) : Stage :=
  let (due, later) := s.alarms.partition fun a => a.due ≤ now
  { s.setTime now with
    alarms := later, ready := s.ready ++ due.map fun a => (a.task, a.signal) }

/-- More signals than any rehearsal has. -/
def enough : Nat := 100000000

/-- Goes on until `stop` holds or nothing is left up to an instant. -/
def playUntil (stop : Stage → Bool) (limit : Option Nat) : (fuel : Nat) → Stage → Stage
  | 0, s => s
  | fuel + 1, s =>
    if stop s then s
    else
      match s.nextReady? with
      | some ((task, signal), others) =>
        playUntil stop limit fuel
          (play task enough (some (s.current task signal), { s with ready := others })).serve
      | none =>
        match s.nextDue? with
        | none => s
        | some due =>
          if limit.any (· < due) then s else playUntil stop limit fuel (s.jump due)

/-- Lets everything go on that needs no time. -/
def settle (s : Stage) : Stage := playUntil (fun _ => false) (some s.now) enough s

/-- Lets some time pass, and everything go on that is due by its end. -/
def sleep (s : Stage) (ms : Nat) : Stage :=
  let instant := s.now + ms
  (playUntil (fun _ => false) (some instant) enough s).setTime instant

/-- Has the client do something that takes no time. -/
def call (s : Stage) (f : Client → Client) : Stage :=
  { s with client := f s.client }.collect s.host

/-- Has the host do something, up to its first wait. -/
def undertake (s : Stage) (next : List Next) : Stage :=
  let host := s.client.taskCount
  let s := { s with host := host, client := s.client.undertake next }
  (play host enough (s.acted host)).serve

/-- Has the host do something, and waits for its end. -/
def await (s : Stage) (next : List Next) : Stage :=
  playUntil isIdle none enough (s.undertake next)

/-- Has the host begin something, and goes on up to an instant; at that instant, only the host. -/
def playBefore (s : Stage) (instant : Nat) (next : List Next) : Stage :=
  let s := s.undertake next
  if instant = 0 then s
  else
    let s := playUntil (fun _ => false) (some (instant - 1)) enough s
    let s := s.jump instant
    match s.ready.find? fun r => r.1 = s.host with
    | some (task, signal) => play task enough (some (s.current task signal), s)
    | none => s

end Stage
end Harvest.Rehearsal
