import Harvest.Command.Work
/-!
The program. It reads the arguments, the environment and files, and prints what comes of them.
There is no network: whatever would be fetched cannot be reached.
-/

open Harvest

namespace Harvest.Main

/-- The variables that are looked up. -/
def variableNames : List String :=
  ["GLEANER_SERVER_URL", "GLEANER_TOKEN", "GLEANER_AUTONOMY", "GLEANER_POLL_INTERVAL_SECS",
   "GLEANER_QUEUE_INTERVAL_SECS", "GLEANER_REQUEST_TIMEOUT_SECS"]

def environment : IO (List (String × String)) :=
  variableNames.filterMapM fun key => do
    return (← IO.getEnv key).map fun v => (key, v)

def usage : String :=
  "Usage: gleaner extract --url URL --resources FILE [--html FILE] [--allow-private]\n" ++
  "       gleaner run --server-url URL --token TOKEN [--autonomy active|passive]\n" ++
  "                   [--name NAME] --resource ID... [--allow-private]"

def usageText : Command.UsageFault → String
  | .displayHelp => usage
  | .displayVersion => "gleaner 0.1.0"
  | .missingSubcommand => usage
  | .unknownArgument => "error: unexpected argument found"
  | .invalidSubcommand => "error: unrecognized subcommand"
  | .invalidValue => "error: a value is required but none was supplied"
  | .tooManyValues => "error: unexpected value found"
  | .argumentConflict => "error: an argument cannot be used multiple times"
  | .missingRequiredArgument => "error: required arguments were not provided"
  | .valueValidation => "error: invalid value for '--autonomy'"

def isFault : Command.UsageFault → Bool
  | .displayHelp => false
  | .displayVersion => false
  | _ => true

/-- What comes of reading a file. -/
def readText (path : String) : IO (Except String String) := do
  try
    return .ok (← IO.FS.readFile path)
  catch e =>
    return .error (toString e)

def unreachable : Http.Reply := .error (.connection "there is no network")

/-- Fetches a page without a network. -/
def fetch (settings : Settings) (protection : Fetch.Protection) (url : String) :
    Except Error String :=
  (Fetch.request protection settings.userAgent url).bind fun _ =>
    Fetch.document settings.requestTimeout url unreachable

def page (url : String) (html : Option String) (allowPrivate : Bool) :
    IO (Except Command.Failure String) := do
  match html with
  | some path =>
    match ← readText path with
    | .ok text => return .ok text
    | .error _ => return .error (.other ("Failed to read HTML file: " ++ path))
  | none =>
    match fetch .standard (Command.protection allowPrivate) url with
    | .ok text => return .ok text
    | .error e => return .error (.error e)

def failed (f : Command.Failure) : IO UInt32 := do
  IO.eprintln ("Error: " ++ f.message)
  return 1

def extract (url resources : String) (html : Option String) (allowPrivate : Bool) :
    IO UInt32 := do
  match Resource.load resources (← readText resources) with
  | .error e => failed (.error e)
  | .ok rs =>
    match ← page url html allowPrivate with
    | .error f => failed f
    | .ok text =>
      match Command.extractPage url text rs with
      | .error f => failed f
      | .ok p =>
        IO.println (Command.printed p)
        return 0

def run (server : Server) (resources : List String) (allowPrivate : Bool)
    (lookup : String → Option String) : IO UInt32 := do
  let now : Sync.Moment := ⟨0, ⟨0, 0, 0⟩⟩
  match Command.prepare server resources allowPrivate lookup now with
  | .error f => failed f
  | .ok _ => failed (.error (.network "Connection failed: there is no network"))

end Harvest.Main

def main (arguments : List String) : IO UInt32 := do
  let found ← Harvest.Main.environment
  let lookup (key : String) : Option String := found.lookup key
  match Command.ofArguments lookup ("gleaner" :: arguments) with
  | .error fault =>
    if Harvest.Main.isFault fault then
      IO.eprintln (Harvest.Main.usageText fault)
      return 2
    else
      IO.println (Harvest.Main.usageText fault)
      return 0
  | .ok (.extract url resources html allowPrivate) =>
    Harvest.Main.extract url resources html allowPrivate
  | .ok (.run server resources allowPrivate) =>
    Harvest.Main.run server resources allowPrivate lookup
