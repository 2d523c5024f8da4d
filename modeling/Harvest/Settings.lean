import Harvest.Error
import Harvest.Text.Blank
/-!
Settings of a worker. Durations are whole milliseconds. A pause after repeated errors grows with
their number up to a cap.
-/

namespace Harvest

structure Settings where
  /-- Time between two polls of a server; with zero it is polled only once. -/
  pollInterval : Nat
  /-- Least time between two jobs. -/
  queueInterval : Nat
  /-- Least time between the end of a fetch of resources and the next one that is not forced. -/
  refreshInterval : Nat
  /-- How often a result is submitted while its resource is out of date. -/
  attempts : Nat
  /-- Every multiple of this number of errors pauses a server. -/
  pauseThreshold : Nat
  backoffUnit : Nat
  backoffCap : Nat
  requestTimeout : Nat
  userAgent : String
  deriving DecidableEq, Repr

namespace Settings

def standard : Settings :=
  ⟨30000, 1000, 300000, 3, 3, 60000, 25, 30000, "Gleaner/0.1.0"⟩

/-- The settings, if a worker can run with them. -/
def validate (s : Settings) : Except Error Settings :=
  if s.attempts = 0 then .error (.config "precondition_attempts must be at least 1")
  else if s.pauseThreshold = 0 then .error (.config "pause_threshold must be at least 1")
  else .ok s

/-- Delays end before this many milliseconds: their whole seconds have 64 bits. -/
def delayLimit : Nat := Nat.pow 2 64 * 1000

/-- The length of a pause after some errors, unless it exceeds every delay. -/
def resumeDelay? (s : Settings) (errors : Nat) : Option Nat :=
  let delay := s.backoffUnit * min errors s.backoffCap
  if delay < delayLimit then some delay else none

/-! Settings from an environment -/

/-- A number of decimal digits, with or without a plus sign, that has 64 bits. -/
def wholeNumber? (s : List Char) : Option Nat :=
  let digits :=
    match s with
    | '+' :: r => r
    | _ => s
  if digits.isEmpty || !digits.all Char.isDigit then none
  else
    let n := digits.foldl (fun n c => n * 10 + (c.toNat - 48)) 0
    if n < Nat.pow 2 64 then some n else none

/-- The milliseconds of a variable that holds seconds, if it is set. -/
def duration? (lookup : String → Option String) (key : String) : Except Error (Option Nat) :=
  match lookup key with
  | none => .ok none
  | some raw =>
    match wholeNumber? (Text.trim raw.toList) with
    | some seconds => .ok (some (seconds * 1000))
    | none =>
      .error (.config (key ++ " must be a whole number of seconds, got '" ++ raw ++ "'"))

/-- A request must be given some time. -/
def nonzero (key : String) : Option Nat → Except Error (Option Nat)
  | some 0 => .error (.config (key ++ " must be greater than zero"))
  | d => .ok d

/-- The standard settings with those that an environment sets. -/
def ofEnvironment (lookup : String → Option String) : Except Error Settings := do
  let poll ← duration? lookup "GLEANER_POLL_INTERVAL_SECS"
  let queue ← duration? lookup "GLEANER_QUEUE_INTERVAL_SECS"
  let request ← duration? lookup "GLEANER_REQUEST_TIMEOUT_SECS"
  let request ← nonzero "GLEANER_REQUEST_TIMEOUT_SECS" request
  validate
    { standard with
      pollInterval := poll.getD standard.pollInterval
      queueInterval := queue.getD standard.queueInterval
      requestTimeout := request.getD standard.requestTimeout }

end Settings
end Harvest
