import Harvest.Text.Blank
/-!
What can go wrong, and how it is told. Errors of the environment may pass by themselves and are
worth another try; errors of extraction come from a resource or from the content of a page.
-/

namespace Harvest

/-- The transformations that refuse values. -/
inductive Error.Step
  | regex
  | castUrl
  | castNumber
  | trim
  deriving DecidableEq, Repr

def Error.Step.text : Error.Step → String
  | .regex => "transformer:regex"
  | .castUrl => "transformer:cast(url)"
  | .castNumber => "transformer:cast(number)"
  | .trim => "transformer:trim"

inductive Error
  /-- A request failed or was answered with an unexpected status. -/
  | http (text : String)
  | network (text : String)
  | timeout (milliseconds : Nat)
  /-- A text is not the value that was expected. -/
  | serialization (text : String)
  | config (text : String)
  | invalidPattern (pattern reason : String)
  | invalidSelector (selector reason : String)
  /-- A rule selects nothing and has no recovery. -/
  | missingNode (selector : String)
  | invalidValue (step : Error.Step) (value : String)
  | regexNoMatch (pattern : String)
  /-- A job does not belong to its resource. -/
  | invalidJob (text : String)
  | resourceNotFound (id : String)
  | generic (text : String)
  deriving DecidableEq, Repr

namespace Error

def message : Error → String
  | http t => "HTTP error: " ++ t
  | network t => "Network error: " ++ t
  | timeout ms => "Timed out after " ++ toString ms ++ "ms"
  | serialization t => "Serialization error: " ++ t
  | config t => "Configuration error: " ++ t
  | invalidPattern p r => "Invalid url pattern '" ++ p ++ "': " ++ r
  | invalidSelector s r => "Invalid selector '" ++ s ++ "': " ++ r
  | missingNode s => "No node was found and no fallback was provided [selector] " ++ s
  | invalidValue step v => "Invalid value for " ++ step.text ++ ": " ++ v
  | regexNoMatch p => "Regex did not match: " ++ p
  | invalidJob t => "Invalid job: " ++ t
  | resourceNotFound id => "Resource " ++ id ++ " not found"
  | generic t => t

def retryableWords : List String := ["timeout", "connect", "reset"]

/-- Whether the operation may succeed when it is tried again. -/
def isRetryable : Error → Bool
  | network _ => true
  | timeout _ => true
  | http t => retryableWords.any fun w => Text.mentions w.toList t.toList
  | _ => false

/-- Whether the resource or the page is to blame. -/
def isExtraction : Error → Bool
  | invalidSelector .. => true
  | missingNode _ => true
  | invalidValue .. => true
  | regexNoMatch _ => true
  | invalidPattern .. => true
  | _ => false

end Error
end Harvest
