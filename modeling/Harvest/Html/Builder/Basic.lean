import Harvest.Html.Arena
import Harvest.Html.Token
/-!
The state in which a document is built: the nodes so far, the elements that are still open, the
formatting to be taken up again, and the phase that says how the next token is understood.
-/

namespace Harvest.Html

inductive Builder.Phase
  | initial
  | beforeHtml
  | beforeHead
  | inHead
  | afterHead
  | inBody
  | text
  | inTable
  | inTableText
  | inCaption
  | inColumnGroup
  | inTableBody
  | inRow
  | inCell
  | inTemplate
  | afterBody
  | inFrameset
  | afterFrameset
  | afterAfterBody
  | afterAfterFrameset
  deriving DecidableEq, Repr, Inhabited

/-- Formatting that is taken up again where an element was closed too early. -/
inductive Builder.Formatting
  | marker
  | element (place : Nat) (tag : Tag)

structure Builder where
  arena : Arena := .empty
  phase : Builder.Phase := .initial
  /-- The phase to come back to from text. -/
  resume : Builder.Phase := .initial
  /-- The open elements, the current one first. -/
  opened : List Nat := []
  /-- The formatting elements, the latest first. -/
  formatting : List Builder.Formatting := []
  templates : List Builder.Phase := []
  head : Option Nat := none
  form : Option Nat := none
  framesetOk : Bool := true
  lenient : Bool := false
  fostering : Bool := false
  pending : List (Token.Kind × String) := []
  skipLineFeed : Bool := false
  reading : Token.Mode := .markup

/-- Whether a token was dealt with, or has to be looked at once more. -/
inductive Builder.Verdict
  | done (b : Builder)
  | again (b : Builder)

namespace Builder

def tag? (b : Builder) (i : Nat) : Option Tag := b.arena.tag? i

def current? (b : Builder) : Option Nat := b.opened.head?

def currentTag? (b : Builder) : Option Tag := b.current?.bind b.tag?

def isNamed (b : Builder) (names : List String) (i : Nat) : Bool :=
  match b.tag? i with
  | some t => t.vocabulary = .html && names.contains t.name
  | none => false

/-- Whether the current element has one of the names. -/
def atName (b : Builder) (names : List String) : Bool :=
  match b.current? with
  | some i => b.isNamed names i
  | none => false

def hasOpen (b : Builder) (name : String) : Bool :=
  b.opened.any (b.isNamed [name])

def pop (b : Builder) : Builder := { b with opened := b.opened.tail }

/-- Closes elements up to and including the nearest one with one of the names. -/
def popThrough (b : Builder) (names : List String) : Builder :=
  { b with opened := (b.opened.dropWhile fun i => !b.isNamed names i).tail }

/-- Closes elements down to the nearest one with one of the names. -/
def popTo (b : Builder) (names : List String) : Builder :=
  { b with opened := b.opened.dropWhile fun i => !b.isNamed names i }

def popThroughPlace (b : Builder) (place : Nat) : Builder :=
  { b with opened := (b.opened.dropWhile (· ≠ place)).tail }

/-! Scopes -/

def mathText : List String := ["mi", "mo", "mn", "ms", "mtext"]

def isBoundary (t : Tag) : Bool :=
  match t.vocabulary with
  | .html =>
    ["applet", "caption", "html", "table", "td", "th", "marquee", "object", "select",
     "template"].contains t.name
  | .math => mathText.contains t.name
  | .svg => ["foreignObject", "desc", "title"].contains t.name

def inListBoundary (t : Tag) : Bool := isBoundary t || t.isHtml "ol" || t.isHtml "ul"

def inButtonBoundary (t : Tag) : Bool := isBoundary t || t.isHtml "button"

def inTableBoundary (t : Tag) : Bool :=
  t.isHtml "html" || t.isHtml "table" || t.isHtml "template"

/-- Whether an element with one of the names is open above the nearest boundary. -/
def inScope (b : Builder) (boundary : Tag → Bool) (names : List String) : Bool :=
  let rec look : List Nat → Bool
    | [] => false
    | i :: r =>
      match b.tag? i with
      | none => look r
      | some t =>
        if t.vocabulary = .html && names.contains t.name then true
        else if boundary t then false
        else look r
  look b.opened

def placeInScope (b : Builder) (place : Nat) : Bool :=
  let rec look : List Nat → Bool
    | [] => false
    | i :: r =>
      if i = place then true
      else
        match b.tag? i with
        | some t => if isBoundary t then false else look r
        | none => look r
  look b.opened

def specialNames : List String :=
  ["address", "applet", "area", "article", "aside", "base", "basefont", "bgsound", "blockquote",
   "body", "br", "button", "caption", "center", "col", "colgroup", "dd", "details", "dir", "div",
   "dl", "dt", "embed", "fieldset", "figcaption", "figure", "footer", "form", "frame", "frameset",
   "h1", "h2", "h3", "h4", "h5", "h6", "head", "header", "hgroup", "hr", "html", "iframe", "img",
   "input", "isindex", "li", "link", "listing", "main", "marquee", "menu", "meta", "nav",
   "noembed", "noframes", "noscript", "object", "ol", "p", "param", "plaintext", "pre", "script",
   "search", "section", "select", "source", "style", "summary", "table", "tbody", "td", "template",
   "textarea", "tfoot", "th", "thead", "title", "tr", "track", "ul", "wbr", "xmp"]

def isSpecial (t : Tag) : Bool :=
  t.vocabulary = .html && specialNames.contains t.name

/-! Closing what ends by itself -/

def impliedEnds : List String :=
  ["dd", "dt", "li", "optgroup", "option", "p", "rb", "rp", "rt", "rtc"]

def thoroughEnds : List String :=
  impliedEnds ++ ["caption", "colgroup", "tbody", "td", "tfoot", "th", "thead", "tr"]

/-- Closes the current elements that end by themselves, up to one with the given name. -/
def closeImplied (b : Builder) (except : List String) : Builder :=
  let names := impliedEnds.filter fun n => !except.contains n
  { b with opened := b.opened.dropWhile (b.isNamed names) }

def closeThoroughly (b : Builder) : Builder :=
  { b with opened := b.opened.dropWhile (b.isNamed thoroughEnds) }

def closeParagraph (b : Builder) : Builder :=
  if b.inScope inButtonBoundary ["p"] then (b.closeImplied ["p"]).popThrough ["p"] else b

/-! Inserting -/

inductive Target
  | lastIn (parent : Nat)
  | before (sibling : Nat)

def tableNames : List String := ["table", "tbody", "tfoot", "thead", "tr"]

/-- Where a node goes that belongs to an element: what may not stand in a table goes in front of
    it while nodes are fostered. -/
def target (b : Builder) (parent : Nat) : Target :=
  if b.fostering && b.isNamed tableNames parent then
    let above := b.opened.dropWhile fun i => !b.isNamed ["table", "template"] i
    match above with
    | [] => .lastIn ((b.opened.getLast?).getD 0)
    | i :: r =>
      if b.isNamed ["template"] i then .lastIn (b.arena.holder i)
      else if (b.arena.parent? i).isSome then .before i
      else .lastIn (b.arena.holder (r.head?.getD 0))
  else .lastIn (b.arena.holder parent)

def place (b : Builder) (t : Target) (i : Nat) : Builder :=
  match t with
  | .lastIn p => { b with arena := b.arena.append p i }
  | .before s => { b with arena := b.arena.insertBefore s i }

def here (b : Builder) : Target :=
  b.target (b.current?.getD 0)

/-- Inserts an element and opens it. -/
def openTag (b : Builder) (tag : Tag) : Builder :=
  let spot := b.here
  let (i, arena) := b.arena.addElement tag
  let b := { b with arena := arena }.place spot i
  { b with opened := i :: b.opened }

def openHtml (b : Builder) (name : String) (attributes : List Attribute) : Builder :=
  b.openTag { vocabulary := .html, name, attributes }

/-- Inserts an element that has no content. -/
def insertVoid (b : Builder) (name : String) (attributes : List Attribute) : Builder :=
  (b.openHtml name attributes).pop

def insertText (b : Builder) (s : String) : Builder :=
  match b.here with
  | .lastIn p => { b with arena := b.arena.appendText p s }
  | .before i => { b with arena := b.arena.textBefore i s }

def insertCommentIn (b : Builder) (parent : Nat) (s : String) : Builder :=
  let (i, arena) := b.arena.add (.comment s)
  { b with arena := arena.append parent i }

def insertComment (b : Builder) (s : String) : Builder :=
  let spot := b.here
  let (i, arena) := b.arena.add (.comment s)
  { b with arena := arena }.place spot i

/-- Inserts an element whose content is read as text of a certain kind. -/
def openText (b : Builder) (name : String) (attributes : List Attribute) (reading : Token.Mode) :
    Builder :=
  { b.openHtml name attributes with reading := reading, resume := b.phase, phase := .text }

def refuseFrameset (b : Builder) : Builder := { b with framesetOk := false }

/-! Phases -/

/-- The phase that fits the open elements. -/
def fittingPhase (b : Builder) : Phase :=
  let rec look : List Nat → Phase
    | [] => .inBody
    | i :: r =>
      match b.tag? i with
      | none => look r
      | some t =>
        if t.vocabulary ≠ .html then if r.isEmpty then .inBody else look r
        else
          match t.name with
          | "td" => .inCell
          | "th" => .inCell
          | "tr" => .inRow
          | "tbody" => .inTableBody
          | "thead" => .inTableBody
          | "tfoot" => .inTableBody
          | "caption" => .inCaption
          | "colgroup" => .inColumnGroup
          | "table" => .inTable
          | "template" => b.templates.head?.getD .inBody
          | "head" => .inHead
          | "body" => .inBody
          | "frameset" => .inFrameset
          | "html" => if b.head.isNone then .beforeHead else .afterHead
          | _ => look r
  look b.opened

def resetPhase (b : Builder) : Builder := { b with phase := b.fittingPhase }

def enter (b : Builder) (phase : Phase) : Builder := { b with phase := phase }

end Builder
end Harvest.Html
