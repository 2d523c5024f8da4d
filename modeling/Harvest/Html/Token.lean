import Harvest.Html.Node
/-!
Tokens of a document's text: tags, runs of characters, comments and document types.
-/

namespace Harvest.Html

/-- Runs of characters come in kinds that a tree treats differently. -/
inductive Token.Kind
  | blank
  | null
  | solid
  deriving DecidableEq, Repr

structure Token.Doctype where
  name : String := ""
  publicId : Option String := none
  systemId : Option String := none
  /-- The declaration was malformed. -/
  broken : Bool := false
  deriving Repr

inductive Token
  | doctype (d : Token.Doctype)
  | opening (name : String) (attributes : List Attribute) (selfClosing : Bool)
  | closing (name : String)
  | comment (s : String)
  | characters (kind : Token.Kind) (s : String)
  | ended
  deriving Repr

/-- How the text of the element at hand is read. -/
inductive Token.Mode
  /-- Tags and references. -/
  | markup
  /-- References, but no tag except the closing one of the name. -/
  | escapable (name : String)
  /-- No reference and no tag except the closing one of the name. -/
  | raw (name : String)
  /-- Raw text whose comments may hold closing tags. -/
  | script
  /-- Everything that is left is text. -/
  | plain
  deriving DecidableEq, Repr

namespace Token

def isBlank (c : Char) : Bool :=
  c = '\t' || c = '\n' || c.toNat = 12 || c = '\r' || c = ' '

def kindOf (c : Char) : Kind :=
  if isBlank c then .blank else if c.toNat = 0 then .null else .solid

def runs : List Char → List (Kind × List Char)
  | [] => []
  | c :: r =>
    match runs r with
    | (k, cs) :: more => if k = kindOf c then (k, c :: cs) :: more else (kindOf c, [c]) :: (k, cs) :: more
    | [] => [(kindOf c, [c])]

def ofText (s : List Char) : List Token :=
  (runs s).map fun (k, cs) => .characters k (String.ofList cs)

end Token
end Harvest.Html
