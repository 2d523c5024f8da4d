import Harvest.Html.Builder.Head
import Harvest.Html.Builder.Foreign
/-!
Tokens in the body.
-/

namespace Harvest.Html.Builder

/-- Elements that stand beside paragraphs. -/
def blockNames : List String :=
  ["address", "article", "aside", "blockquote", "center", "details", "dialog", "dir", "div", "dl",
   "fieldset", "figcaption", "figure", "footer", "header", "hgroup", "main", "menu", "nav", "ol",
   "p", "search", "section", "summary", "ul"]

/-- Elements that end with their own closing tag only. -/
def closedBlockNames : List String :=
  ["button", "listing", "pre", "select"] ++ blockNames.filter (· ≠ "p")

def headings : List String := ["h1", "h2", "h3", "h4", "h5", "h6"]

def formattingNames : List String :=
  ["b", "big", "code", "em", "font", "i", "s", "small", "strike", "strong", "tt", "u"]

def tablePartNames : List String :=
  ["caption", "col", "colgroup", "frame", "head", "tbody", "td", "tfoot", "th", "thead", "tr"]

def closeInScope (b : Builder) (boundary : Tag → Bool) (except names : List String) : Builder :=
  if b.inScope boundary names then (b.closeImplied except).popThrough names else b

/-- Ends a list item before the next one begins. -/
def closeItem (b : Builder) (names : List String) : Builder :=
  let rec look : List Nat → Builder
    | [] => b
    | i :: r =>
      match b.tag? i with
      | none => look r
      | some t =>
        if t.vocabulary = .html && names.contains t.name then
          (b.closeImplied [t.name]).popThrough [t.name]
        else if isSpecial t && !(["address", "div", "p"].any t.isHtml) then b
        else look r
  look b.opened

/-- The end of the text while templates are open. -/
def endTemplate (b : Builder) : Verdict :=
  if b.hasOpen "template" then
    let b := (b.popThrough ["template"]).clearToMarker
    .again { b with templates := b.templates.tail }.resetPhase
  else .done b

/-- The body that a later body tag adds its attributes to. -/
def mergeBody (attributes : List Attribute) (b : Builder) : Builder :=
  match b.opened.reverse with
  | _ :: i :: _ =>
    if b.isNamed ["body"] i && !b.hasOpen "template" then
      { b with arena := b.arena.addMissing i attributes }.refuseFrameset
    else b
  | _ => b

/-- A frameset in the place of a body that is still empty enough. -/
def replaceBody (attributes : List Attribute) (b : Builder) : Builder :=
  match b.opened.reverse with
  | root :: i :: _ =>
    if b.isNamed ["body"] i && b.framesetOk then
      let b := { b with arena := b.arena.detach i, opened := [root] }
      (b.openHtml "frameset" attributes).enter .inFrameset
    else b
  | _ => b

def openForm (attributes : List Attribute) (b : Builder) : Builder :=
  let inTemplate := b.hasOpen "template"
  if b.form.isSome && !inTemplate then b
  else
    let b := b.closeParagraph.openHtml "form" attributes
    if inTemplate then b else { b with form := b.current? }

def closeForm (b : Builder) : Builder :=
  if b.hasOpen "template" then b.closeInScope isBoundary [] ["form"]
  else
    match b.form with
    | none => b
    | some i =>
      let b := { b with form := none }
      if b.placeInScope i then (b.closeImplied []).close i else b

/-- A link ends the one before. -/
def openLink (attributes : List Attribute) (b : Builder) : Builder :=
  let b :=
    match b.latest? "a" with
    | some (i, _) => ((b.adopt "a").forget i).close i
    | none => b
  b.reconstruct.openFormatting "a" attributes

def isHiddenInput (attributes : List Attribute) : Bool :=
  attributes.any fun a => a.name = "type" && Text.lowered a.value = "hidden"

def inSelection (b : Builder) : Bool := b.inScope isBoundary ["select"]

/-- Opens a selection. Selections do not nest: inside of one the tag ends it instead. -/
def openSelect (attributes : List Attribute) (b : Builder) : Builder :=
  if b.inSelection then b.popThrough ["select"]
  else (b.reconstruct.openHtml "select" attributes).refuseFrameset

/-- Opens an option, or a group of options, behind the one before. -/
def openOption (name : String) (attributes : List Attribute) (b : Builder) : Builder :=
  let b :=
    if b.inSelection then b.closeImplied (if name = "option" then ["optgroup"] else [])
    else if b.atName ["option"] then b.pop
    else b
  b.reconstruct.openHtml name attributes

/-- A rule between two groups of options ends the first one. -/
def insertRule (attributes : List Attribute) (b : Builder) : Builder :=
  let b := b.closeParagraph
  ((if b.inSelection then b.closeImplied [] else b).insertVoid "hr" attributes).refuseFrameset

/-- Inserts a field, which has no place in a selection. -/
def insertField (attributes : List Attribute) (b : Builder) : Builder :=
  let b := if b.inSelection then b.popThrough ["select"] else b
  let b := b.reconstruct.insertVoid "input" attributes
  if isHiddenInput attributes then b else b.refuseFrameset

def openingInBody (name : String) (attributes : List Attribute) (selfClosing : Bool)
    (b : Builder) : Builder :=
  if headNames.contains name then b.openHeadTag name attributes
  else if blockNames.contains name then b.closeParagraph.openHtml name attributes
  else if headings.contains name then
    let b := b.closeParagraph
    let b := if b.atName headings then b.pop else b
    b.openHtml name attributes
  else if formattingNames.contains name then b.reconstruct.openFormatting name attributes
  else if tablePartNames.contains name then b
  else if ["area", "br", "embed", "img", "keygen", "wbr"].contains name then
    (b.reconstruct.insertVoid name attributes).refuseFrameset
  else if ["param", "source", "track"].contains name then b.insertVoid name attributes
  else if ["pre", "listing"].contains name then
    { b.closeParagraph.openHtml name attributes with skipLineFeed := true, framesetOk := false }
  else if ["dd", "dt"].contains name then
    ((b.refuseFrameset.closeItem ["dd", "dt"]).closeParagraph).openHtml name attributes
  else if ["applet", "marquee", "object"].contains name then
    (b.reconstruct.openHtml name attributes).pushMarker.refuseFrameset
  else if ["option", "optgroup"].contains name then b.openOption name attributes
  else if ["rb", "rtc"].contains name then
    (if b.inScope isBoundary ["ruby"] then b.closeImplied [] else b).openHtml name attributes
  else if ["rp", "rt"].contains name then
    (if b.inScope isBoundary ["ruby"] then b.closeImplied ["rtc"] else b).openHtml name attributes
  else if ["noembed", "noscript"].contains name then b.openText name attributes (.raw name)
  else
    match name with
    | "html" => b.mergeRoot attributes
    | "body" => b.mergeBody attributes
    | "frameset" => b.replaceBody attributes
    | "form" => b.openForm attributes
    | "li" => ((b.refuseFrameset.closeItem ["li"]).closeParagraph).openHtml name attributes
    | "plaintext" => { b.closeParagraph.openHtml name attributes with reading := .plain }
    | "button" =>
      let b := b.closeInScope isBoundary [] ["button"]
      (b.reconstruct.openHtml name attributes).refuseFrameset
    | "a" => b.openLink attributes
    | "nobr" =>
      let b := b.reconstruct
      let b := if b.inScope isBoundary ["nobr"] then (b.adopt "nobr").reconstruct else b
      b.openFormatting "nobr" attributes
    | "table" =>
      let b := if b.lenient then b else b.closeParagraph
      (b.openHtml name attributes).refuseFrameset.enter .inTable
    | "input" => b.insertField attributes
    | "hr" => b.insertRule attributes
    | "image" => (b.reconstruct.insertVoid "img" attributes).refuseFrameset
    | "textarea" =>
      { (b.openText name attributes (.escapable name)).refuseFrameset with skipLineFeed := true }
    | "xmp" => (b.closeParagraph.reconstruct.refuseFrameset).openText name attributes (.raw name)
    | "iframe" => b.refuseFrameset.openText name attributes (.raw name)
    | "select" => b.openSelect attributes
    | "math" => b.reconstruct.openForeign .math name attributes selfClosing
    | "svg" => b.reconstruct.openForeign .svg name attributes selfClosing
    | _ => b.reconstruct.openHtml name attributes

def closingInBody (name : String) (b : Builder) : Verdict :=
  if closedBlockNames.contains name then .done (b.closeInScope isBoundary [] [name])
  else if formattingNames.contains name || ["a", "nobr"].contains name then .done (b.adopt name)
  else if headings.contains name then .done (b.closeInScope isBoundary [] headings)
  else if ["dd", "dt"].contains name then .done (b.closeInScope isBoundary [name] [name])
  else if ["applet", "marquee", "object"].contains name then
    if b.inScope isBoundary [name] then
      .done ((b.closeImplied []).popThrough [name]).clearToMarker
    else .done b
  else
    match name with
    | "template" => .done b.closeTemplate
    | "body" => .done (if b.inScope isBoundary ["body"] then b.enter .afterBody else b)
    | "html" => if b.inScope isBoundary ["body"] then .again (b.enter .afterBody) else .done b
    | "form" => .done b.closeForm
    | "p" =>
      let b := if b.inScope inButtonBoundary ["p"] then b else b.openHtml "p" []
      .done b.closeParagraph
    | "li" => .done (b.closeInScope inListBoundary ["li"] ["li"])
    | "br" => .done (b.reconstruct.insertVoid "br" []).refuseFrameset
    | _ => .done (b.closeOther name)

def inBody (t : Token) (b : Builder) : Verdict :=
  match t with
  | .characters .null _ => .done b
  | .characters .blank s => .done (b.reconstruct.insertText s)
  | .characters .solid s => .done (b.reconstruct.insertText s).refuseFrameset
  | .comment s => .done (b.insertComment s)
  | .doctype _ => .done b
  | .ended => if b.templates.isEmpty then .done b else b.endTemplate
  | .opening name attributes selfClosing => .done (b.openingInBody name attributes selfClosing)
  | .closing name => b.closingInBody name

/-- Tokens in an element that is filled with text. -/
def inText (t : Token) (b : Builder) : Verdict :=
  let left := { b.pop with phase := b.resume, reading := .markup }
  match t with
  | .characters _ s => .done (b.insertText s)
  | .ended => .again left
  | .closing _ => .done left
  | _ => .done b

end Harvest.Html.Builder
