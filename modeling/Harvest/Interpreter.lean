import Harvest.Loading
/-!
Interpreters. An interpreter runs the rules of one resource over documents, one after the other. It
keeps the warnings of the last run, also of one that fails, until they are taken or the next run
begins.
-/

namespace Harvest

structure Interpreter where
  resource : Resource
  warnings : List String

namespace Interpreter

def new (r : Resource) : Interpreter := ⟨r, []⟩

def clear (i : Interpreter) : Interpreter := { i with warnings := [] }

def warn (i : Interpreter) (warnings : List String) : Interpreter :=
  { i with warnings := i.warnings ++ warnings }

/-- Hands the warnings over. -/
def takeWarnings (i : Interpreter) : List String × Interpreter := (i.warnings, i.clear)

/-- Runs the rules over a document. -/
def run (i : Interpreter) (d : Html.Document) : Except Error Members × Interpreter :=
  let x := i.resource.extract d
  (x.payload, i.warn x.warnings)

/-- The payload of a document. -/
def parse (i : Interpreter) (d : Html.Document) : Except Error Members × Interpreter :=
  i.clear.run d

/-- The warnings of a run before are gone. -/
theorem parse_eq (i : Interpreter) (d : Html.Document) :
    i.parse d = ((i.resource.extract d).payload, ⟨i.resource, (i.resource.extract d).warnings⟩) :=
  rfl

/-- The payload of a live document or an error, the interpreter afterwards, and the time and the
    looks that it took. -/
structure LiveParse where
  payload : Except Error Members
  interpreter : Interpreter
  elapsed : Nat
  looks : Nat

/-- Runs the rules over what the next look shows. -/
def runLook (i : Interpreter) (d : LiveDocument) (elapsed looks : Nat) : LiveParse :=
  let done := elapsed + (d looks).delay
  match (d looks).result with
  | .error e => ⟨.error e, i, done, looks + 1⟩
  | .ok html =>
    let (payload, i) := i.run (Html.Document.parse html)
    ⟨payload, i, done, looks + 1⟩

def alreadyLoaded : String := "Page was already loaded before waiting for it"

def notLoaded (milliseconds : Nat) : String :=
  "Page did not finish loading within " ++ toString milliseconds ++ "ms"

/-- Goes on after waiting has ended. A wait that was not needed or took too long leaves a
    warning. -/
def afterWait (i : Interpreter) (d : LiveDocument) (ending : Loading.Ending) : LiveParse :=
  match ending.result with
  | .ok 0 => (i.warn [alreadyLoaded]).runLook d ending.elapsed ending.looks
  | .ok _ => i.runLook d ending.elapsed ending.looks
  | .error (.timeout ms) => (i.warn [notLoaded ms]).runLook d ending.elapsed ending.looks
  | .error e => ⟨.error e, i, ending.elapsed, ending.looks⟩

/-- The payload of a live document, which is waited for if the resource asks for it. -/
def parseLive (i : Interpreter) (d : LiveDocument) (p : Loading.Patience) : Option LiveParse :=
  let i := i.clear
  if i.resource.hasWaitCondition then (Loading.wait d i.resource p).map (i.afterWait d)
  else some (i.runLook d 0 0)

end Interpreter
end Harvest
