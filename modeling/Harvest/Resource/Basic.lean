/-!
Resources. A resource describes one site that is harvested: the pages it applies to, the variables
that are read from their addresses, and the rules by which their content becomes a payload.
-/

namespace Harvest

namespace Resource

/-- Which blanks a trim takes away. -/
inductive TrimPart
  | inside
  | outside
  deriving DecidableEq, Repr

inductive Transformer
  | regex (pattern : String) (replacement : Option String)
  /-- A cast to a number; the options may force a locale. -/
  | toNumber (options : Option (Option String))
  | toUrl (options : Option (Option String))
  /-- A literal in the place of null. -/
  | fallback (value : String)
  | trim (parts : List TrimPart)
  /-- A kind that is not known, which changes nothing. -/
  | unrecognized
  deriving DecidableEq, Repr

/-- What is read from a node. -/
inductive Source
  | text
  | attribute (name : String)
  | style (declaration : String) (pseudo : Option String)
  deriving DecidableEq, Repr

structure Extractor where
  source : Source
  /-- The place of the value, its parts divided by dots. -/
  key : String
  transformers : List Transformer
  deriving DecidableEq, Repr

mutual

/-- A rule locates one node, or all nodes of a kind. -/
inductive Rule
  | node (selector : Option String) (extractors : List Extractor) (recovery : Recovery)
  | array (key selector : String) (fields : List Rule)

/-- What is done when a node is missing. -/
inductive Recovery
  | none
  | bail (warning : Option String)
  | omit (warning : Option String)
  | fallback (rule : Rule)

end

/-- A rule for one node of the whole document. -/
structure PageRule where
  selector : Option String
  extractors : List Extractor
  recovery : Recovery

inductive Variable.Kind
  | url
  | query
  deriving DecidableEq, Repr

structure Variable where
  kind : Variable.Kind
  identifier : String
  /-- Another name to report it under. -/
  label : Option String
  description : String
  default : Option String
  deriving DecidableEq, Repr

/-- The name under which a variable is reported. -/
def Variable.outputName (v : Variable) : String := v.label.getD v.identifier

end Resource

structure Resource where
  id : String
  hostname : String
  urlPattern : String
  /-- What is read from the addresses of pages. -/
  inputs : List Resource.Variable
  /-- Rules that are run first; they may set the locale. -/
  pageRules : List Resource.PageRule
  /-- Selectors of which one must match before a page counts as loaded. -/
  waitFor : Option (List String)
  descriptors : List Resource.Rule
  /-- The version of the schema. -/
  hash : String
  disabled : Bool

def Resource.hasWaitCondition (r : Resource) : Bool :=
  match r.waitFor with
  | some selectors => !selectors.isEmpty
  | none => false

end Harvest
