import Harvest.Resource.Basic
import Harvest.Json.Decode
import Harvest.Json.Reader
import Harvest.Error
/-!
Resources read from JSON. A kind of transformer that is not known is kept as one that changes
nothing, so that newer resources can be read; every other unknown kind is refused.
-/

namespace Harvest.Resource

open Json

def texts? : Json → Option (List String) := list? string?

def TrimPart.ofJson? (v : Json) : Option TrimPart :=
  match innerChoice? ["inside", "outside"] v with
  | some 0 => some .inside
  | some _ => some .outside
  | none => none

/-- The options of a cast. -/
def forcedLocale? (v : Json) : Option (Option String) :=
  match record? ["force_locale"] v with
  | some [locale] => locale.nullable string?
  | _ => none

def castOf? (content : Json) : Option Transformer :=
  match record? ["type", "options"] content with
  | some [type, options] => do
    let target ← type.required (innerChoice? ["number", "url"])
    let options ← options.nullable forcedLocale?
    some (if target = 0 then .toNumber options else .toUrl options)
  | _ => none

/-- Content of a kind that has none: an object or an empty array. -/
def isUnused : Json → Bool
  | .obj _ => true
  | .arr items => items.isEmpty
  | _ => false

def transformerKinds : List String :=
  ["transformer:regex", "transformer:cast", "transformer:fallback", "transformer:trim"]

def Transformer.ofJson? (nesting : Nesting) (v : Json) : Option Transformer := do
  let (kind, content) ← tagged? v
  match ← kind.index? nesting transformerKinds with
  | some 0 =>
    match record? ["regex", "replacement"] content with
    | some [pattern, substitute] =>
      some (.regex (← pattern.required string?) (← substitute.nullable string?))
    | _ => none
  | some 1 => castOf? content
  | some 2 =>
    match record? ["value"] content with
    | some [value] => some (.fallback (← value.required string?))
    | _ => none
  | some 3 =>
    match record? ["options"] content with
    | some [options] => some (.trim (← options.required (list? TrimPart.ofJson?)))
    | _ => none
  | _ => if isUnused content then some .unrecognized else none

def transformers? : Json → Option (List Transformer) := list? (Transformer.ofJson? .inner)

def extractorKinds : List String := ["extractor:text", "extractor:attribute", "extractor:style"]

def Extractor.ofJson? (nesting : Nesting) (v : Json) : Option Extractor := do
  let (kind, content) ← tagged? v
  match ← kind.index? nesting extractorKinds with
  | some 0 =>
    match record? ["key", "transformers"] content with
    | some [key, chain] =>
      some ⟨.text, ← key.required string?, ← chain.orDefault [] transformers?⟩
    | _ => none
  | some 1 =>
    match record? ["key", "attribute", "transformers"] content with
    | some [key, name, chain] =>
      let key ← key.required string?
      some ⟨.attribute (← name.required string?), key, ← chain.orDefault [] transformers?⟩
    | _ => none
  | some 2 =>
    match record? ["key", "declaration", "pseudo", "transformers"] content with
    | some [key, declaration, pseudo, chain] =>
      let key ← key.required string?
      let source := Source.style (← declaration.required string?) (← pseudo.nullable string?)
      some ⟨source, key, ← chain.orDefault [] transformers?⟩
    | _ => none
  | _ => none

def recoveryKinds : List String := ["recovery:bail", "recovery:omit", "recovery:fallback"]

def warning? (content : Json) : Option (Option String) :=
  match record? ["warning"] content with
  | some [warning] => warning.nullable string?
  | _ => none

mutual

/-- A rule of at most the given depth. -/
def ruleWithin? (nesting : Nesting) : Nat → Json → Option Rule
  | 0, _ => none
  | depth + 1, v => do
    let (kind, content) ← tagged? v
    match ← kind.index? nesting ["selector:node", "selector:array"] with
    | some 0 =>
      match record? ["selector", "extractors", "if_missing"] content with
      | some [selector, extractors, missing] =>
        let selector ← selector.nullable string?
        let extractors ← extractors.orDefault [] (list? (Extractor.ofJson? .inner))
        let recovery ← recoveryField? .inner depth missing
        some (.node selector extractors recovery)
      | _ => none
    | some 1 =>
      match record? ["key", "selector", "fields"] content with
      | some [key, selector, fields] =>
        let key ← key.required string?
        let selector ← selector.required string?
        some (.array key selector (← fields.orDefault [] (list? (ruleWithin? .inner depth))))
      | _ => none
    | _ => none

def recoveryField? (nesting : Nesting) : Nat → Field → Option Recovery
  | 0, _ => none
  | depth + 1, field => do
    match ← field.nullable (recoveryWithin? nesting depth) with
    | some recovery => some recovery
    | none => some .none

def recoveryWithin? (nesting : Nesting) : Nat → Json → Option Recovery
  | 0, _ => none
  | depth + 1, v => do
    let (kind, content) ← tagged? v
    match ← kind.index? nesting recoveryKinds with
    | some 0 => some (.bail (← warning? content))
    | some 1 => some (.omit (← warning? content))
    | some 2 =>
      match record? ["selector"] content with
      | some [selector] => some (.fallback (← selector.required (ruleWithin? .inner depth)))
      | _ => none
    | _ => none

end

/-- Steps that suffice for reading a value. -/
def enough (v : Json) : Nat := 2 * v.depth + 2

def Rule.ofJson? (nesting : Nesting) (v : Json) : Option Rule :=
  ruleWithin? nesting (enough v) v

def PageRule.ofJson? (nesting : Nesting) (v : Json) : Option PageRule :=
  match record? ["selector", "extractors", "if_missing"] v with
  | some [selector, extractors, missing] => do
    let selector ← selector.nullable string?
    let extractors ← extractors.orDefault [] (list? (Extractor.ofJson? nesting))
    let recovery ← recoveryField? nesting (enough v) missing
    some ⟨selector, extractors, recovery⟩
  | _ => none

def Variable.ofJson? (v : Json) : Option Variable :=
  match record? ["kind", "identifier", "alias", "description", "default"] v with
  | some [kind, identifier, label, description, default] => do
    let kind ← kind.required (choice? ["url", "query"])
    let identifier ← identifier.required string?
    let label ← label.nullable string?
    let description ← description.orDefault "" string?
    let default ← default.nullable string?
    some ⟨if kind = 0 then .url else .query, identifier, label, description, default⟩
  | _ => none

def fieldNames : List String :=
  ["id", "hostname", "url_pattern", "variables", "meta", "wait_for", "descriptors", "hash",
   "disabled"]

def ofJson? (nesting : Nesting) (v : Json) : Option Resource :=
  match record? fieldNames v with
  | some [id, hostname, pattern, inputs, pageRules, waitFor, descriptors, hash, disabled] => do
    let id ← id.required string?
    let hostname ← hostname.required string?
    let pattern ← pattern.required string?
    let inputs ← inputs.orDefault [] (list? Variable.ofJson?)
    let pageRules ← pageRules.orDefault [] (list? (PageRule.ofJson? nesting))
    let waitFor ← waitFor.nullable texts?
    let descriptors ← descriptors.orDefault [] (list? (Rule.ofJson? nesting))
    let hash ← hash.required string?
    let disabled ← disabled.orDefault false bool?
    some ⟨id, hostname, pattern, inputs, pageRules, waitFor, descriptors, hash, disabled⟩
  | _ => none

def listOfJson? (nesting : Nesting) : Json → Option (List Resource) := list? (ofJson? nesting)

/-- What a coordinator publishes: its name and its resources. -/
structure Catalog where
  name : String
  resources : List Resource

def Catalog.ofJson? (nesting : Nesting) (v : Json) : Option Catalog :=
  match record? ["name", "resources"] v with
  | some [name, resources] => do
    let name ← name.required string?
    some ⟨name, ← resources.required (listOfJson? nesting)⟩
  | _ => none

/-- Reads a file of resources: a catalog or a bare list. -/
def parseFile (raw : String) : Except Error (List Resource) :=
  match Json.parse? raw with
  | none => .error (.serialization "not JSON")
  | some v =>
    match Catalog.ofJson? .inner v with
    | some c => .ok c.resources
    | none =>
      match listOfJson? .inner v with
      | some rs => .ok rs
      | none => .error (.serialization "neither a catalog nor a list of resources")

/-- The resources of a file, given what came of reading it. -/
def load (path : String) (read : Except String String) : Except Error (List Resource) :=
  match read with
  | .ok raw => parseFile raw
  | .error reason => .error (.config ("Failed to read resource file " ++ path ++ ": " ++ reason))

end Harvest.Resource
