import Harvest.Resource.Basic
import Harvest.Json.Basic
/-!
Resources as JSON. Lists and flags are always written; a wait, a label, a default of a variable,
options of a cast and a recovery are left out when there is none.
-/

namespace Harvest.Resource

/-- An object with its members in key order. -/
def record (members : List (String × Json)) : Json := .obj (Members.ofList members)

/-- A member that is left out when there is no value. -/
def optional (name : String) (v : Option Json) : List (String × Json) :=
  match v with
  | some v => [(name, v)]
  | none => []

def nullable (s : Option String) : Json := Json.ofOption .str s

def TrimPart.toJson : TrimPart → Json
  | .inside => .str "inside"
  | .outside => .str "outside"

def castJson (target : String) (options : Option (Option String)) : Json :=
  record ([("kind", .str "transformer:cast"), ("type", .str target)] ++
    optional "options" (options.map fun locale => record [("force_locale", nullable locale)]))

def Transformer.toJson : Transformer → Json
  | .regex pattern replacement =>
    record [("kind", .str "transformer:regex"), ("regex", .str pattern),
      ("replacement", nullable replacement)]
  | .toNumber options => castJson "number" options
  | .toUrl options => castJson "url" options
  | .fallback value => record [("kind", .str "transformer:fallback"), ("value", .str value)]
  | .trim parts =>
    record [("kind", .str "transformer:trim"), ("options", .arr (parts.map TrimPart.toJson))]
  | .unrecognized => record [("kind", .str "Unrecognized")]

def Source.members : Source → List (String × Json)
  | .text => [("kind", .str "extractor:text")]
  | .attribute name => [("kind", .str "extractor:attribute"), ("attribute", .str name)]
  | .style declaration pseudo =>
    [("kind", .str "extractor:style"), ("declaration", .str declaration),
     ("pseudo", nullable pseudo)]

def Extractor.toJson (e : Extractor) : Json :=
  record (e.source.members ++
    [("key", .str e.key), ("transformers", .arr (e.transformers.map Transformer.toJson))])

mutual

def Rule.toJson : Rule → Json
  | .node selector extractors recovery =>
    record ([("kind", .str "selector:node"), ("selector", nullable selector),
      ("extractors", .arr (extractors.map Extractor.toJson))] ++
        optional "if_missing" recovery.toJson?)
  | .array key selector fields =>
    record [("kind", .str "selector:array"), ("key", .str key), ("selector", .str selector),
      ("fields", .arr (rulesJson fields))]

def rulesJson : List Rule → List Json
  | [] => []
  | r :: rest => r.toJson :: rulesJson rest

def Recovery.toJson? : Recovery → Option Json
  | .none => .none
  | .bail warning => some (record [("kind", .str "recovery:bail"), ("warning", nullable warning)])
  | .omit warning => some (record [("kind", .str "recovery:omit"), ("warning", nullable warning)])
  | .fallback rule => some (record [("kind", .str "recovery:fallback"), ("selector", rule.toJson)])

end

def PageRule.toJson (r : PageRule) : Json :=
  record ([("selector", nullable r.selector),
    ("extractors", .arr (r.extractors.map Extractor.toJson))] ++
      optional "if_missing" r.recovery.toJson?)

def Variable.toJson (v : Variable) : Json :=
  let kind :=
    match v.kind with
    | .url => "url"
    | .query => "query"
  record ([("kind", .str kind), ("identifier", .str v.identifier)] ++
    optional "alias" (v.label.map .str) ++ [("description", .str v.description)] ++
      optional "default" (v.default.map .str))

def toJson (r : Resource) : Json :=
  record ([("id", .str r.id), ("hostname", .str r.hostname), ("url_pattern", .str r.urlPattern),
    ("variables", .arr (r.inputs.map Variable.toJson)),
    ("meta", .arr (r.pageRules.map PageRule.toJson))] ++
      optional "wait_for" (r.waitFor.map fun w => .arr (w.map .str)) ++
      [("descriptors", .arr (rulesJson r.descriptors)), ("hash", .str r.hash),
       ("disabled", .bool r.disabled)])

end Harvest.Resource
