import Harvest.Command.Arguments
/-!
The commands: extraction of one page, and work for a coordinator.
-/

namespace Harvest

inductive Command
  /-- Harvests one page, which may be read from a file. -/
  | extract (url resources : String) (html : Option String) (allowPrivate : Bool)
  /-- Works for a coordinator on some resources. -/
  | run (server : Server) (resources : List String) (allowPrivate : Bool)

namespace Command

def helpSwitch : Switch := ⟨"help", some 'h', .help, false, none⟩

def versionSwitch : Switch := ⟨"version", some 'V', .version, false, none⟩

def allowPrivateSwitch : Switch := ⟨"allow-private", none, .flag, false, none⟩

def extractSwitches : List Switch :=
  [⟨"url", some 'u', .value .text false, true, none⟩,
   ⟨"resources", some 'r', .value .path false, true, none⟩,
   ⟨"html", none, .value .path false, false, none⟩,
   allowPrivateSwitch, helpSwitch]

def runSwitches : List Switch :=
  [⟨"server-url", none, .value .text false, true, some "GLEANER_SERVER_URL"⟩,
   ⟨"token", none, .value .text false, true, some "GLEANER_TOKEN"⟩,
   ⟨"autonomy", none, .value .autonomy false, false, some "GLEANER_AUTONOMY"⟩,
   ⟨"name", none, .value .text false, false, none⟩,
   ⟨"resource", some 'r', .value .text true, true, none⟩,
   allowPrivateSwitch, helpSwitch]

def ofExtract (r : Reading) : Command :=
  .extract (r.value "url" "") (r.value "resources" "") (r.value? "html") (r.isSet "allow-private")

/-- The command of a worker. A coordinator is known by its URL. -/
def ofRun (r : Reading) : Command :=
  let url := r.value "server-url" ""
  let autonomy := (autonomyOf? (r.value "autonomy" "active")).getD .active
  .run ⟨url, r.value "name" "coordinator", url, r.value "token" "", autonomy⟩
    (r.values "resource") (r.isSet "allow-private")

def subcommands : List String := ["extract", "run", "help"]

def help : List String → UsageFault
  | [] => .displayHelp
  | [name] => if subcommands.contains name then .displayHelp else .invalidSubcommand
  | _ => .invalidSubcommand

/-- A word that is neither a switch nor a command. -/
def strayWord (ended : Bool) (w : String) : UsageFault :=
  if ended && subcommands.contains w then .unknownArgument else .invalidSubcommand

/-- Reads the words behind the name of the program, up to the command. -/
def ofWords (lookup : String → Option String) : Reading → List String →
    Except UsageFault Command
  | _, [] => .error .missingSubcommand
  | r, w :: rest =>
    if r.ended then .error (strayWord true w)
    else
      match w with
      | "extract" => (Reading.read extractSwitches lookup rest).map ofExtract
      | "run" => (Reading.read runSwitches lookup rest).map ofRun
      | "help" => .error (help rest)
      | _ =>
        if w = "-" ∨ !w.startsWith "-" then .error (strayWord false w)
        else
          match r.word [helpSwitch, versionSwitch] w with
          | .ok r => ofWords lookup r rest
          | .error e => .error e

/-- The command that arguments ask for; the first of them is the name of the program. -/
def ofArguments (lookup : String → Option String) (arguments : List String) :
    Except UsageFault Command :=
  ofWords lookup .start (arguments.drop 1)

end Command
end Harvest
