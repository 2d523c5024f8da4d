import Harvest.Html.Builder.Table
import Harvest.Html.Token.Reader
/-!
Reading a whole document. Every text is a document: what is missing is supplied and what is
misplaced is moved.
-/

namespace Harvest.Html

namespace Builder

/-- A token as the phase understands it. -/
def byPhase (t : Token) (b : Builder) : Verdict :=
  match b.phase with
  | .initial => initial t b
  | .beforeHtml => beforeHtml t b
  | .beforeHead => beforeHead t b
  | .inHead => inHead t b
  | .afterHead => afterHead t b
  | .inBody => inBody t b
  | .text => inText t b
  | .inTable => inTable t b
  | .inTableText => inTableText t b
  | .inCaption => inCaption t b
  | .inColumnGroup => inColumnGroup t b
  | .inTableBody => inTableBody t b
  | .inRow => inRow t b
  | .inCell => inCell t b
  | .inTemplate => inTemplate t b
  | .afterBody => afterBody t b
  | .inFrameset => inFrameset t b
  | .afterFrameset => afterFrameset t b
  | .afterAfterBody => afterAfterBody t b
  | .afterAfterFrameset => afterAfterFrameset t b

def once (t : Token) (b : Builder) : Verdict :=
  if isForeign t b then
    match foreign t b with
    | .done b => .done b
    | .left b => byPhase t b
  else byPhase t b

/-- Looks at a token until it is dealt with. -/
def settle (t : Token) : Nat → Builder → Builder
  | 0, b => b
  | fuel + 1, b =>
    match once t b with
    | .done b => b
    | .again b => settle t fuel b

/-- Takes a token in. A line feed right behind some opening tags is none of the content. -/
def take (b : Builder) (t : Token) : Builder :=
  let skip := b.skipLineFeed
  let b := { b with skipLineFeed := false }
  let rounds := 4 * (b.opened.length + b.templates.length) + 40
  match t with
  | .characters k s =>
    match skip, s.toList with
    | true, '\n' :: r =>
      if r.isEmpty then b else settle (.characters k (String.ofList r)) rounds b
    | _, _ => settle t rounds b
  | _ => settle t rounds b

/-- Whether character data outside HTML may begin. -/
def inForeign (b : Builder) : Bool :=
  match b.currentTag? with
  | some t => t.vocabulary ≠ .html
  | none => false

/-- Takes in what is left of the text. -/
def takeAll : Nat → List Char → Builder → Builder
  | 0, _, b => b
  | _, [], b => b.take .ended
  | fuel + 1, s, b =>
    let (tokens, rest) := Token.Reader.step b.reading b.inForeign s
    takeAll fuel rest (tokens.foldl take b)

end Builder

def Document.parse (text : String) : Document :=
  let s := Token.Reader.source text
  (Builder.takeAll (s.length + 1) s {}).arena.freeze

end Harvest.Html
