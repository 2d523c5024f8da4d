import Harvest.Job
/-!
The arguments of the command line. A switch that takes a value takes the next word, or what stands
right behind it. A switch is seen to when the next one begins or the words end, so that the first
of two mistakes counts; only words that stand for nothing are refused before that.
-/

namespace Harvest.Command

/-- Why arguments do not give a command. -/
inductive UsageFault
  | displayHelp
  | displayVersion
  /-- There are no arguments at all. -/
  | missingSubcommand
  | unknownArgument
  | invalidSubcommand
  /-- A value is missing, or empty where it must not be. -/
  | invalidValue
  | tooManyValues
  /-- A switch is given twice. -/
  | argumentConflict
  | missingRequiredArgument
  | valueValidation
  deriving DecidableEq, Repr

/-- What the value of a switch must be. -/
inductive ValueKind
  | text
  /-- A text that is not empty. -/
  | path
  | autonomy
  deriving DecidableEq, Repr

/-- What a switch does. -/
inductive SwitchKind
  | help
  | version
  /-- Holds when it is given. -/
  | flag
  /-- Takes a value; with `repeatable` it may be given again and again. -/
  | value (kind : ValueKind) (repeatable : Bool)
  deriving DecidableEq, Repr

structure Switch where
  long : String
  short : Option Char
  kind : SwitchKind
  required : Bool
  /-- The variable of the environment that stands for the switch when it is not given. -/
  envVariable : Option String
  deriving DecidableEq, Repr

def autonomyOf? (raw : String) : Option Autonomy :=
  match Text.lowered raw with
  | "active" => some .active
  | "passive" => some .passive
  | _ => none

def ValueKind.check (v : String) : ValueKind → Except UsageFault Unit
  | .text => .ok ()
  | .path => if v = "" then .error .invalidValue else .ok ()
  | .autonomy => if (autonomyOf? v).isSome then .ok () else .error .valueValidation

def Switch.takesValue (s : Switch) : Bool :=
  match s.kind with
  | .value .. => true
  | _ => false

/-- Words read so far: the switches that were seen to with their values in order, the one that is
    still to be seen to, and whether a pair of dashes has ended the switches. -/
structure Reading where
  given : List (Switch × String)
  pending : Option (Switch × Option String)
  ended : Bool

namespace Reading

def start : Reading := ⟨[], none, false⟩

def has (r : Reading) (s : Switch) : Bool := r.given.any fun g => g.1.long = s.long

/-- Takes the value of a switch. -/
def store (r : Reading) (s : Switch) (v : String) : Except UsageFault Reading :=
  match s.kind with
  | .help => .error .displayHelp
  | .version => .error .displayVersion
  | .flag =>
    if r.has s then .error .argumentConflict else .ok { r with given := r.given ++ [(s, v)] }
  | .value kind repeatable =>
    if !repeatable && r.has s then .error .argumentConflict
    else (kind.check v).map fun _ => { r with given := r.given ++ [(s, v)] }

/-- Sees to the switch that is pending. -/
def resolve (r : Reading) : Except UsageFault Reading :=
  match r.pending with
  | none => .ok r
  | some (_, none) => .error .invalidValue
  | some (s, some v) => { r with pending := none }.store s v

/-- Takes a switch with what stands right behind it. -/
def take (r : Reading) (s : Switch) (attached : Option String) : Except UsageFault Reading :=
  r.resolve.bind fun r =>
    if s.takesValue then
      match attached with
      | some v => r.store s v
      | none => .ok { r with pending := some (s, none) }
    else r.store s "true"

/-- A word behind two dashes. -/
def long (switches : List Switch) (r : Reading) (word : List Char) : Except UsageFault Reading :=
  let (name, value) := Text.splitFirst '=' word
  match switches.find? fun s => s.long.toList = name with
  | none => .error .unknownArgument
  | some s =>
    if value.isSome && !s.takesValue then .error .tooManyValues
    else r.take s (value.map String.ofList)

/-- A value right behind a letter; an equals sign before it does not belong to it. -/
def attached? : List Char → Option String
  | [] => none
  | '=' :: v => some (String.ofList v)
  | v => some (String.ofList v)

/-- Letters behind one dash. -/
def letters (switches : List Switch) : Reading → List Char → Except UsageFault Reading
  | r, [] => .ok r
  | r, c :: rest =>
    match switches.find? fun s => s.short = some c with
    | none => .error .unknownArgument
    | some s =>
      if s.takesValue then r.take s (attached? rest)
      else
        match r.take s none with
        | .ok r => letters switches r rest
        | .error e => .error e

/-- A word that is no switch. -/
def plain (r : Reading) (word : String) : Except UsageFault Reading :=
  match r.pending with
  | some (s, none) => .ok { r with pending := some (s, some word) }
  | _ => .error .unknownArgument

def word (switches : List Switch) (r : Reading) (w : String) : Except UsageFault Reading :=
  if r.ended then .error .unknownArgument
  else
    match w.toList with
    | ['-', '-'] => .ok { r with ended := true }
    | '-' :: '-' :: name => r.long switches name
    | ['-'] => r.plain w
    | '-' :: cs => letters switches r cs
    | _ => r.plain w

def words (switches : List Switch) : Reading → List String → Except UsageFault Reading
  | r, [] => r.resolve
  | r, w :: rest =>
    match r.word switches w with
    | .ok r => words switches r rest
    | .error e => .error e

/-- Takes the value of a switch that was not given from the environment. -/
def fill (lookup : String → Option String) (r : Reading) (s : Switch) :
    Except UsageFault Reading :=
  if r.has s then .ok r
  else
    match s.envVariable.bind lookup with
    | some v => r.store s v
    | none => .ok r

def fillAll (lookup : String → Option String) : List Switch → Reading → Except UsageFault Reading
  | [], r => .ok r
  | s :: rest, r =>
    match r.fill lookup s with
    | .ok r => fillAll lookup rest r
    | .error e => .error e

/-- The switches that are given, by the words or by the environment. -/
def read (switches : List Switch) (lookup : String → Option String) (ws : List String) :
    Except UsageFault Reading := do
  let r ← words switches start ws
  let r ← fillAll lookup switches r
  if switches.all fun s => !s.required || r.has s then .ok r
  else .error .missingRequiredArgument

/-- The values of a switch. -/
def values (r : Reading) (long : String) : List String :=
  (r.given.filter fun g => g.1.long = long).map (·.2)

def value? (r : Reading) (long : String) : Option String := (r.values long).head?

def value (r : Reading) (long : String) (default : String) : String :=
  (r.value? long).getD default

def isSet (r : Reading) (long : String) : Bool := (r.value? long).isSome

end Reading
end Harvest.Command
