import Harvest.Css.Match
import Harvest.Html.Text
import Harvest.Style
import Harvest.Transform
/-!
Extraction of a payload from a document. The rules for the whole page are run first and may set the
locale; then every descriptor is run on the body, and its values override those before it. A bail
at any depth empties the payload.
-/

namespace Harvest

/-- Parses a selector of a resource. -/
def Css.selector (text : String) : Except Error Css.Selector :=
  match Css.Selector.parse? text with
  | some s => .ok s
  | none => .error (.invalidSelector text "not a selector")

namespace Extraction

open Html Resource

/-- The parts of a key between its dots; there is always one. -/
def keyParts (key : String) : List String :=
  (Text.splitChars (· = '.') key.toList).map String.ofList

/-- The members of an object, and none of anything else. -/
def membersOf : Option Json → Members
  | some (.obj m) => m
  | _ => []

/-- Puts a value at a path. What is no object on the way becomes one. -/
def insertAt : List String → Json → Members → Members
  | [], _, m => m
  | [part], v, m => Members.insert part v m
  | part :: next :: rest, v, m =>
    Members.insert part (.obj (insertAt (next :: rest) v (membersOf (m.get? part)))) m

def insertPath (m : Members) (key : String) (v : Json) : Members :=
  insertAt (keyParts key) v m

/-- What an evaluation depends on: the document, its body, and the setting of transformations. -/
structure Setting where
  document : Document
  body : Place
  context : Transform.Context

/-- Where nodes are looked for. -/
inductive Scope
  | document
  | element (p : Place)

/-- A place for a document without elements. -/
def nowhere : Place := 
  .orphan { vocabulary := .html, name := "html", attributes := [] } [] ⟨[], [], true, []⟩

def rootOf (d : Document) : Place := d.root?.getD nowhere

/-- The element that a scope stands for. -/
def Scope.here (s : Setting) : Scope → Place
  | .document => rootOf s.document
  | .element p => p

def Scope.all (s : Setting) (selector : Css.Selector) : Scope → List Place
  | .document => selector.inDocument s.document
  | .element p => selector.below p

def unavailable (declaration : String) : String :=
  "Computed style is not available for " ++ declaration

/-- The value that is read from a node. -/
def read (source : Source) (p : Place) : Pass Json :=
  match source with
  | .text => .pure (.str p.flatText)
  | .attribute name => .pure (textOrNull (p.tag.attribute? name))
  | .style declaration pseudo =>
    match Style.ofTag p.tag pseudo with
    | some style => .pure (textOrNull (style.get? declaration))
    | none => .warn (unavailable declaration) .null

def extract (c : Transform.Context) (e : Extractor) (p : Place) : Pass Json :=
  (read e.source p).bind (Transform.applyAll c e.transformers)

/-- The values of some extractors at a node, put into an object one after the other. -/
def extractAll (c : Transform.Context) (p : Place) : List Extractor → Members → Pass Members
  | [], m => .pure m
  | e :: r, m => (extract c e p).bind fun v => extractAll c p r (insertPath m e.key v)

/-- The node that a rule asks for. -/
def target (s : Setting) (scope : Scope) : Option String → Pass (Option Place)
  | none => .pure (some (scope.here s))
  | some css => .ofExcept ((Css.selector css).map fun sel => (scope.all s sel).head?)

def warned (warning : Option String) : Pass Unit := ⟨warning.toList, .ok ()⟩

/-- Runs a pass for every element of a list. -/
def each (f : α → Pass β) : List α → Pass (List β)
  | [] => .pure []
  | a :: r => (f a).bind fun b => (each f r).bind fun bs => .pure (b :: bs)

mutual

/-- The values of one rule. -/
def rule (s : Setting) : Rule → Scope → Pass Members
  | .node selector extractors recovery, scope =>
    (target s scope selector).bind fun
      | some p => extractAll s.context p extractors []
      | none => recover s (selector.getD "") recovery
  | .array key selector fields, scope =>
    (Pass.ofExcept (Css.selector selector)).bind fun css =>
      (each (fun p => (rules s fields (.element p) []).bind fun m => .pure (.obj m))
        (scope.all s css)).bind fun records => .pure [(key, .arr records)]

/-- The values of some rules, later ones overriding earlier ones. -/
def rules (s : Setting) : List Rule → Scope → Members → Pass Members
  | [], _, m => .pure m
  | r :: rest, scope, m =>
    (rule s r scope).bind fun values => rules s rest scope (m.override values)

/-- What a missing node leads to. A substitute is looked for in the whole body. -/
def recover (s : Setting) (selector : String) : Recovery → Pass Members
  | .none => .fail (.missingNode selector)
  | .bail warning => (warned warning).bind fun _ => ⟨[], .error .bailed⟩
  | .omit warning => (warned warning).bind fun _ => .pure []
  | .fallback r => rule s r (.element s.body)

end

/-- The values of the rules for the whole page. -/
def pageRules (s : Setting) : List PageRule → Members → Pass Members
  | [], m => .pure m
  | r :: rest, m =>
    (rule s (.node r.selector r.extractors r.recovery) .document).bind fun values =>
      pageRules s rest (m.override values)

/-- The locale that the rules for the whole page end with. -/
def localeOf (values : Members) : Locale :=
  match values.get? "locale" with
  | some (.str tag) => .ofTag tag
  | _ => .english

/-- The body of a document, or its root if it has none. -/
def bodyOf (d : Document) : Place :=
  (d.elements.find? fun p => p.tag.name = "body").getD (rootOf d)

/-- The setting of the rules for the whole page. -/
def setting (r : Resource) (d : Document) : Setting :=
  ⟨d, bodyOf d, ⟨r.hostname, .english⟩⟩

def Setting.withLocale (s : Setting) (l : Locale) : Setting :=
  { s with context := { s.context with locale := l } }

/-- The whole pass over a document. -/
def run (r : Resource) (d : Document) : Pass Members :=
  let s := setting r d
  (pageRules s r.pageRules []).bind fun values =>
    rules (s.withLocale (localeOf values)) r.descriptors (.element s.body) []

end Extraction

/-- What an extraction leaves: a payload or an error, and the warnings up to its end. -/
structure Extracted where
  payload : Except Error Members
  warnings : List String

/-- The payload of a document. A pass that bails out gives the empty one. -/
def Resource.extract (r : Resource) (d : Html.Document) : Extracted :=
  let p := Extraction.run r d
  let payload : Except Error Members :=
    match p.result with
    | .ok m => .ok m
    | .error .bailed => .ok []
    | .error (.failed e) => .error e
  ⟨payload, p.warnings⟩

end Harvest
