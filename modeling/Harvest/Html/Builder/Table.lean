import Harvest.Html.Builder.Body
/-!
Tokens in tables and in templates. What has no place in a table is fostered: it goes in front of
the table.
-/

namespace Harvest.Html.Builder

def rowGroups : List String := ["tbody", "tfoot", "thead"]

def tableContext : List String := ["table", "template", "html"]

def groupContext : List String := ["tbody", "tfoot", "thead", "template", "html"]

def rowContext : List String := ["tr", "template", "html"]

def unfoster : Verdict → Verdict
  | .done b => .done { b with fostering := false }
  | .again b => .again { b with fostering := false }

/-- A token in front of the table. -/
def fostered (t : Token) (b : Builder) : Verdict :=
  unfoster (inBody t { b with fostering := true })

def openIn (context : List String) (name : String) (attributes : List Attribute) (phase : Phase)
    (b : Builder) : Builder :=
  ((b.popTo context).openHtml name attributes).enter phase

def openingInTable (t : Token) (name : String) (attributes : List Attribute) (b : Builder) :
    Verdict :=
  if rowGroups.contains name then .done (b.openIn tableContext name attributes .inTableBody)
  else if ["td", "th", "tr"].contains name then
    .again (b.openIn tableContext "tbody" [] .inTableBody)
  else
    match name with
    | "caption" =>
      .done (((b.popTo tableContext).pushMarker.openHtml name attributes).enter .inCaption)
    | "colgroup" => .done (b.openIn tableContext name attributes .inColumnGroup)
    | "col" => .again (b.openIn tableContext "colgroup" [] .inColumnGroup)
    | "table" =>
      if b.inScope inTableBoundary ["table"] then .again (b.popThrough ["table"]).resetPhase
      else .done b
    | "style" => .done (b.openHeadTag name attributes)
    | "script" => .done (b.openHeadTag name attributes)
    | "template" => .done (b.openHeadTag name attributes)
    | "input" =>
      if isHiddenInput attributes then .done (b.insertVoid name attributes) else fostered t b
    | "form" =>
      if b.hasOpen "template" || b.form.isSome then .done b
      else
        let b := b.openHtml "form" attributes
        .done { b with form := b.current? }.pop
    | _ => fostered t b

def inTable (t : Token) (b : Builder) : Verdict :=
  match t with
  | .characters .. =>
    if b.atName ("template" :: tableNames) then
      .again { b with pending := [], resume := b.phase, phase := .inTableText }
    else fostered t b
  | .comment s => .done (b.insertComment s)
  | .doctype _ => .done b
  | .ended => inBody t b
  | .opening name attributes _ => openingInTable t name attributes b
  | .closing name =>
    if ["body", "caption", "col", "colgroup", "html", "tbody", "td", "tfoot", "th", "thead",
        "tr"].contains name then .done b
    else
      match name with
      | "table" =>
        if b.inScope inTableBoundary ["table"] then .done (b.popThrough ["table"]).resetPhase
        else .done b
      | "template" => .done b.closeTemplate
      | _ => fostered t b

/-- Inserts text that was held back; if not all of it is blank it goes in front of the table. -/
def insertPending (b : Builder) : Builder :=
  let held := b.pending
  let b := { b with pending := [], phase := b.resume }
  if held.all (·.1 = .blank) then held.foldl (fun b (_, s) => b.insertText s) b
  else
    held.foldl
      (fun b (k, s) =>
        match fostered (.characters k s) b with
        | .done b => b
        | .again b => b)
      b

def inTableText (t : Token) (b : Builder) : Verdict :=
  match t with
  | .characters .null _ => .done b
  | .characters k s => .done { b with pending := b.pending ++ [(k, s)] }
  | _ => .again b.insertPending

def inCaption (t : Token) (b : Builder) : Verdict :=
  let leave (more : Bool) : Verdict :=
    if b.inScope inTableBoundary ["caption"] then
      let b := (((b.closeImplied []).popThrough ["caption"]).clearToMarker).enter .inTable
      if more then .again b else .done b
    else .done b
  match t with
  | .closing "caption" => leave false
  | .closing "table" => leave true
  | .opening name _ _ =>
    if ["caption", "col", "colgroup", "tbody", "td", "tfoot", "th", "thead", "tr"].contains name
    then leave true
    else inBody t b
  | .closing name =>
    if ["body", "col", "colgroup", "html", "tbody", "td", "tfoot", "th", "thead", "tr"].contains
        name then .done b
    else inBody t b
  | _ => inBody t b

def inColumnGroup (t : Token) (b : Builder) : Verdict :=
  let leave : Verdict :=
    if b.atName ["colgroup"] then .again (b.pop.enter .inTable) else .done b
  match t with
  | .characters .blank s => .done (b.insertText s)
  | .comment s => .done (b.insertComment s)
  | .doctype _ => .done b
  | .opening "html" attributes _ => .done (b.mergeRoot attributes)
  | .opening "col" attributes _ => .done (b.insertVoid "col" attributes)
  | .opening "template" attributes _ => .done (b.openHeadTag "template" attributes)
  | .closing "colgroup" =>
    .done (if b.atName ["colgroup"] then b.pop.enter .inTable else b)
  | .closing "col" => .done b
  | .closing "template" => .done b.closeTemplate
  | .ended => inBody t b
  | _ => leave

def inTableBody (t : Token) (b : Builder) : Verdict :=
  let leave : Verdict :=
    if b.inScope inTableBoundary rowGroups then
      .again ((b.popTo groupContext).pop.enter .inTable)
    else .done b
  match t with
  | .opening name attributes _ =>
    if name = "tr" then .done (b.openIn groupContext name attributes .inRow)
    else if ["th", "td"].contains name then .again (b.openIn groupContext "tr" [] .inRow)
    else if ["caption", "col", "colgroup", "tbody", "tfoot", "thead"].contains name then leave
    else inTable t b
  | .closing name =>
    if rowGroups.contains name then
      if b.inScope inTableBoundary [name] then .done ((b.popTo groupContext).pop.enter .inTable)
      else .done b
    else if name = "table" then leave
    else if ["body", "caption", "col", "colgroup", "html", "td", "th", "tr"].contains name then
      .done b
    else inTable t b
  | _ => inTable t b

def inRow (t : Token) (b : Builder) : Verdict :=
  let left : Builder := (b.popTo rowContext).pop.enter .inTableBody
  let inside := b.inScope inTableBoundary ["tr"]
  let leave : Verdict := if inside then .again left else .done b
  match t with
  | .opening name attributes _ =>
    if ["th", "td"].contains name then
      .done (b.openIn rowContext name attributes .inCell).pushMarker
    else if ["caption", "col", "colgroup", "tbody", "tfoot", "thead", "tr"].contains name then leave
    else inTable t b
  | .closing name =>
    if name = "tr" then .done (if inside then left else b)
    else if name = "table" then leave
    else if rowGroups.contains name then
      if b.inScope inTableBoundary [name] then leave else .done b
    else if ["body", "caption", "col", "colgroup", "html", "td", "th"].contains name then .done b
    else inTable t b
  | _ => inTable t b

def closeCell (b : Builder) : Builder :=
  (((b.closeImplied []).popThrough ["td", "th"]).clearToMarker).enter .inRow

def inCell (t : Token) (b : Builder) : Verdict :=
  match t with
  | .opening name _ _ =>
    if ["caption", "col", "colgroup", "tbody", "td", "tfoot", "th", "thead", "tr"].contains name then
      if b.inScope inTableBoundary ["td", "th"] then .again b.closeCell else .done b
    else inBody t b
  | .closing name =>
    if ["td", "th"].contains name then
      if b.inScope inTableBoundary [name] then
        .done ((((b.closeImplied []).popThrough [name]).clearToMarker).enter .inRow)
      else .done b
    else if ["body", "caption", "col", "colgroup", "html"].contains name then .done b
    else if tableNames.contains name then
      if b.inScope inTableBoundary [name] then .again b.closeCell else .done b
    else inBody t b
  | _ => inBody t b

/-! Templates -/

/-- Takes the phase that a token asks for inside a template. -/
def reenter (b : Builder) (phase : Phase) : Builder :=
  { b with templates := phase :: b.templates.tail, phase := phase }

def inTemplate (t : Token) (b : Builder) : Verdict :=
  match t with
  | .opening name attributes _ =>
    if headNames.contains name then .done (b.openHeadTag name attributes)
    else if ["caption", "colgroup", "tbody", "tfoot", "thead"].contains name then
      .again (b.reenter .inTable)
    else if name = "col" then .again (b.reenter .inColumnGroup)
    else if name = "tr" then .again (b.reenter .inTableBody)
    else if ["td", "th"].contains name then .again (b.reenter .inRow)
    else .again (b.reenter .inBody)
  | .closing "template" => .done b.closeTemplate
  | .closing _ => .done b
  | .ended => b.endTemplate
  | _ => inBody t b

/-! Behind the body, and framesets -/

def afterBody (t : Token) (b : Builder) : Verdict :=
  match t with
  | .characters .blank _ => inBody t b
  | .comment s => .done (b.insertCommentIn (b.opened.getLast?.getD 0) s)
  | .doctype _ => .done b
  | .opening "html" attributes _ => .done (b.mergeRoot attributes)
  | .closing "html" => .done (b.enter .afterAfterBody)
  | .ended => .done b
  | _ => .again (b.enter .inBody)

def afterAfterBody (t : Token) (b : Builder) : Verdict :=
  match t with
  | .characters .blank _ => inBody t b
  | .comment s => .done (b.insertCommentIn 0 s)
  | .doctype _ => .done b
  | .opening "html" attributes _ => .done (b.mergeRoot attributes)
  | .ended => .done b
  | _ => .again (b.enter .inBody)

def inFrameset (t : Token) (b : Builder) : Verdict :=
  match t with
  | .characters .blank s => .done (b.insertText s)
  | .comment s => .done (b.insertComment s)
  | .opening "html" attributes _ => .done (b.mergeRoot attributes)
  | .opening "frameset" attributes _ => .done (b.openHtml "frameset" attributes)
  | .opening "frame" attributes _ => .done (b.insertVoid "frame" attributes)
  | .opening "noframes" attributes _ => .done (b.openHeadTag "noframes" attributes)
  | .closing "frameset" =>
    if b.opened.length ≤ 1 then .done b
    else
      let b := b.pop
      .done (if b.atName ["frameset"] then b else b.enter .afterFrameset)
  | _ => .done b

def afterFrameset (t : Token) (b : Builder) : Verdict :=
  match t with
  | .characters .blank s => .done (b.insertText s)
  | .comment s => .done (b.insertComment s)
  | .opening "html" attributes _ => .done (b.mergeRoot attributes)
  | .opening "noframes" attributes _ => .done (b.openHeadTag "noframes" attributes)
  | .closing "html" => .done (b.enter .afterAfterFrameset)
  | _ => .done b

def afterAfterFrameset (t : Token) (b : Builder) : Verdict :=
  match t with
  | .characters .blank _ => inBody t b
  | .comment s => .done (b.insertCommentIn 0 s)
  | .opening "html" attributes _ => .done (b.mergeRoot attributes)
  | .opening "noframes" attributes _ => .done (b.openHeadTag "noframes" attributes)
  | _ => .done b

end Harvest.Html.Builder
