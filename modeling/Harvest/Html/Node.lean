/-!
Document trees. Text, comments and elements stand as children in order; the contents of a
`template` element hang below a node of their own that is not an element. Elements are numbered
in the order in which they were made, which is that of the text unless elements were moved or
copied to mend the nesting of tags.
-/

namespace Harvest.Html

/-- The vocabulary that an element belongs to. -/
inductive Vocabulary
  | html
  | svg
  | math
  deriving DecidableEq, Repr, Inhabited

structure Attribute where
  name : String
  value : String
  /-- Whether the name belongs to a vocabulary of its own, as `href` in `xlink:href`. -/
  qualified : Bool := false
  deriving DecidableEq, Repr, Inhabited

structure Tag where
  vocabulary : Vocabulary
  name : String
  attributes : List Attribute
  /-- The rank of the element among all that were made for the document. -/
  made : Nat := 0
  deriving DecidableEq, Repr, Inhabited

inductive Node
  | text (s : String)
  | comment (s : String)
  | element (tag : Tag) (children : List Node)
  /-- What a `template` element holds. -/
  | contents (children : List Node)
  deriving Repr, Inhabited, BEq

/-- A document is the list of the nodes at its top. What a frameset took the place of hangs
    nowhere any more, but is kept. -/
structure Document where
  nodes : List Node
  lost : List Node := []
  deriving Repr, Inhabited, BEq

def Tag.attribute? (t : Tag) (name : String) : Option String :=
  (t.attributes.find? fun a => a.name = name && !a.qualified).map Attribute.value

def Tag.isHtml (t : Tag) (name : String) : Bool :=
  t.vocabulary = .html && t.name = name

end Harvest.Html
