import Harvest.Html.Builder.Formatting
/-!
Tokens in front of the body: the document type, the root, the head and what stands between head
and body.
-/

namespace Harvest.Html.Builder

/-! Document types -/

/-- Starts of public identifiers that ask for lenient layout. -/
def lenientStarts : List String :=
  ["-//advasoft ltd//dtd html 3.0 aswedit + extensions//", "-//as//dtd html 3.0 aswedit + extensions//",
   "-//ietf//dtd html 2.0 level 1//", "-//ietf//dtd html 2.0 level 2//",
   "-//ietf//dtd html 2.0 strict level 1//", "-//ietf//dtd html 2.0 strict level 2//",
   "-//ietf//dtd html 2.0 strict//", "-//ietf//dtd html 2.0//", "-//ietf//dtd html 2.1e//",
   "-//ietf//dtd html 3.0//", "-//ietf//dtd html 3.2 final//", "-//ietf//dtd html 3.2//",
   "-//ietf//dtd html 3//", "-//ietf//dtd html level 0//", "-//ietf//dtd html level 1//",
   "-//ietf//dtd html level 2//", "-//ietf//dtd html level 3//",
   "-//ietf//dtd html strict level 0//", "-//ietf//dtd html strict level 1//",
   "-//ietf//dtd html strict level 2//", "-//ietf//dtd html strict level 3//",
   "-//ietf//dtd html strict//", "-//ietf//dtd html//", "-//metrius//dtd metrius presentational//",
   "-//microsoft//dtd internet explorer 2.0 html strict//",
   "-//microsoft//dtd internet explorer 2.0 html//",
   "-//microsoft//dtd internet explorer 2.0 tables//",
   "-//microsoft//dtd internet explorer 3.0 html strict//",
   "-//microsoft//dtd internet explorer 3.0 html//",
   "-//microsoft//dtd internet explorer 3.0 tables//", "-//netscape comm. corp.//dtd html//",
   "-//netscape comm. corp.//dtd strict html//", "-//o'reilly and associates//dtd html 2.0//",
   "-//o'reilly and associates//dtd html extended 1.0//",
   "-//o'reilly and associates//dtd html extended relaxed 1.0//",
   "-//softquad software//dtd hotmetal pro 6.0::19990601::extensions to html 4.0//",
   "-//softquad//dtd hotmetal pro 4.0::19971010::extensions to html 4.0//",
   "-//spyglass//dtd html 2.0 extended//", "-//sq//dtd html 2.0 hotmetal + extensions//",
   "-//sun microsystems corp.//dtd hotjava html//",
   "-//sun microsystems corp.//dtd hotjava strict html//", "-//w3c//dtd html 3 1995-03-24//",
   "-//w3c//dtd html 3.2 draft//", "-//w3c//dtd html 3.2 final//", "-//w3c//dtd html 3.2//",
   "-//w3c//dtd html 3.2s draft//", "-//w3c//dtd html 4.0 frameset//",
   "-//w3c//dtd html 4.0 transitional//", "-//w3c//dtd html experimental 19960712//",
   "-//w3c//dtd html experimental 970421//", "-//w3c//dtd w3 html//", "-//w3o//dtd w3 html 3.0//",
   "-//webtechs//dtd mozilla html 2.0//", "-//webtechs//dtd mozilla html//"]

def lenientIds : List String :=
  ["-//w3o//dtd w3 html strict 3.0//en//", "-/w3c/dtd html 4.0 transitional/en", "html"]

/-- Starts that ask for lenient layout where no system identifier follows. -/
def lenientAlone : List String :=
  ["-//w3c//dtd html 4.01 frameset//", "-//w3c//dtd html 4.01 transitional//"]

def startsWithAny (starts : List String) (s : String) : Bool :=
  starts.any fun p => p.toList.isPrefixOf s.toList

/-- Whether a document of the type lays out its paragraphs around tables leniently. -/
def isLenient (d : Token.Doctype) : Bool :=
  let publicId := d.publicId.map String.toLower
  let systemId := d.systemId.map String.toLower
  d.broken || d.name ≠ "html" ||
    (match publicId with
    | some p => lenientIds.contains p || startsWithAny lenientStarts p ||
        (systemId.isNone && startsWithAny lenientAlone p)
    | none => false) ||
    systemId = some "http://www.ibm.com/data/dtd/v11/ibmxhtml1-transitional.dtd"

def initial (t : Token) (b : Builder) : Verdict :=
  match t with
  | .characters .blank _ => .done b
  | .comment s => .done (b.insertCommentIn 0 s)
  | .doctype d => .done { b with lenient := isLenient d, phase := .beforeHtml }
  | _ => .again { b with lenient := true, phase := .beforeHtml }

def openRoot (b : Builder) (attributes : List Attribute) : Builder :=
  let (i, arena) := b.arena.addElement { vocabulary := .html, name := "html", attributes }
  { b with arena := arena.append 0 i, opened := [i], phase := .beforeHead }

def beforeHtml (t : Token) (b : Builder) : Verdict :=
  match t with
  | .characters .blank _ => .done b
  | .comment s => .done (b.insertCommentIn 0 s)
  | .doctype _ => .done b
  | .opening "html" attributes _ => .done (b.openRoot attributes)
  | .closing name =>
    if ["head", "body", "html", "br"].contains name then .again (b.openRoot []) else .done b
  | _ => .again (b.openRoot [])

/-- A root tag that is found later only adds attributes. -/
def mergeRoot (attributes : List Attribute) (b : Builder) : Builder :=
  if b.hasOpen "template" then b
  else
    match b.opened.getLast? with
    | some root => { b with arena := b.arena.addMissing root attributes }
    | none => b

def openHead (b : Builder) (attributes : List Attribute) : Builder :=
  let b := b.openHtml "head" attributes
  { b with head := b.current?, phase := .inHead }

def beforeHead (t : Token) (b : Builder) : Verdict :=
  match t with
  | .characters .blank _ => .done b
  | .comment s => .done (b.insertComment s)
  | .doctype _ => .done b
  | .opening "html" attributes _ => .done (b.mergeRoot attributes)
  | .opening "head" attributes _ => .done (b.openHead attributes)
  | .closing name =>
    if ["head", "body", "html", "br"].contains name then .again (b.openHead []) else .done b
  | _ => .again (b.openHead [])

def closeTemplate (b : Builder) : Builder :=
  if b.hasOpen "template" then
    let b := (b.closeThoroughly.popThrough ["template"]).clearToMarker
    { b with templates := b.templates.tail }.resetPhase
  else b

def openTemplate (b : Builder) (attributes : List Attribute) : Builder :=
  let b := (b.openHtml "template" attributes).pushMarker.refuseFrameset
  { b with phase := .inTemplate, templates := .inTemplate :: b.templates }

/-- The names of elements that belong to a head wherever they are found. -/
def headNames : List String :=
  ["base", "basefont", "bgsound", "link", "meta", "noframes", "script", "style", "template",
   "title"]

/-- Inserts an element that belongs to a head. -/
def openHeadTag (b : Builder) (name : String) (attributes : List Attribute) : Builder :=
  match name with
  | "title" => b.openText name attributes (.escapable name)
  | "noscript" => b.openText name attributes (.raw name)
  | "noframes" => b.openText name attributes (.raw name)
  | "style" => b.openText name attributes (.raw name)
  | "script" => b.openText name attributes .script
  | "template" => b.openTemplate attributes
  | _ => b.insertVoid name attributes

def inHead (t : Token) (b : Builder) : Verdict :=
  let leave : Verdict := .again (b.pop.enter .afterHead)
  match t with
  | .characters .blank s => .done (b.insertText s)
  | .comment s => .done (b.insertComment s)
  | .doctype _ => .done b
  | .opening "html" attributes _ => .done (b.mergeRoot attributes)
  | .opening "head" _ _ => .done b
  | .opening name attributes _ =>
    if headNames.contains name || name = "noscript" then .done (b.openHeadTag name attributes)
    else leave
  | .closing "head" => .done (b.pop.enter .afterHead)
  | .closing "template" => .done b.closeTemplate
  | .closing name => if ["body", "html", "br"].contains name then leave else .done b
  | _ => leave

def openBody (b : Builder) (attributes : List Attribute) : Builder :=
  (b.openHtml "body" attributes).enter .inBody

/-- Inserts into the head, which was closed already, an element that belongs there. -/
def openBehindHead (b : Builder) (name : String) (attributes : List Attribute) : Builder :=
  match b.head with
  | none => b
  | some head =>
    ({ b with opened := head :: b.opened }.openHeadTag name attributes).close head

def afterHead (t : Token) (b : Builder) : Verdict :=
  let leave : Verdict := .again (b.openBody [])
  match t with
  | .characters .blank s => .done (b.insertText s)
  | .comment s => .done (b.insertComment s)
  | .doctype _ => .done b
  | .opening "html" attributes _ => .done (b.mergeRoot attributes)
  | .opening "body" attributes _ => .done (b.openBody attributes).refuseFrameset
  | .opening "frameset" attributes _ =>
    .done ((b.openHtml "frameset" attributes).enter .inFrameset)
  | .opening "head" _ _ => .done b
  | .opening name attributes _ =>
    if headNames.contains name then .done (b.openBehindHead name attributes) else leave
  | .closing "template" => .done b.closeTemplate
  | .closing name => if ["body", "html", "br"].contains name then leave else .done b
  | _ => leave

end Harvest.Html.Builder
