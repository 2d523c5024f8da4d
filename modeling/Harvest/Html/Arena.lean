import Harvest.Html.Node
/-!
A table of nodes under construction. Nodes are named by their place in the table, so that an
element can be moved while it is still open; `freeze` makes a tree of the finished table.
-/

namespace Harvest.Html

inductive Arena.Content
  | document
  | contents
  | text (s : String)
  | comment (s : String)
  | element (tag : Tag)
  deriving Repr, Inhabited

structure Arena.Cell where
  content : Arena.Content
  parent : Option Nat := none
  children : Array Nat := #[]
  deriving Repr, Inhabited

structure Arena where
  cells : Array Arena.Cell

namespace Arena

/-- A table that holds a document without nodes, at place zero. -/
def empty : Arena := ⟨#[{ content := .document }]⟩

def cell? (a : Arena) (i : Nat) : Option Cell := a.cells[i]?

def tag? (a : Arena) (i : Nat) : Option Tag :=
  match a.cell? i with
  | some { content := .element tag, .. } => some tag
  | _ => none

def parent? (a : Arena) (i : Nat) : Option Nat :=
  (a.cell? i).bind Cell.parent

def children (a : Arena) (i : Nat) : Array Nat :=
  match a.cell? i with
  | some c => c.children
  | none => #[]

def text? (a : Arena) (i : Nat) : Option String :=
  match a.cell? i with
  | some { content := .text s, .. } => some s
  | _ => none

def update (a : Arena) (i : Nat) (f : Cell → Cell) : Arena :=
  ⟨a.cells.modify i f⟩

/-- Adds a node that hangs nowhere. -/
def add (a : Arena) (content : Content) : Nat × Arena :=
  (a.cells.size, ⟨a.cells.push { content := content }⟩)

def setParent (a : Arena) (i : Nat) (parent : Option Nat) : Arena :=
  a.update i fun c => { c with parent := parent }

def setChildren (a : Arena) (i : Nat) (children : Array Nat) : Arena :=
  a.update i fun c => { c with children := children }

def detach (a : Arena) (i : Nat) : Arena :=
  match a.parent? i with
  | none => a
  | some p => (a.setChildren p ((a.children p).filter (· ≠ i))).setParent i none

def append (a : Arena) (parent child : Nat) : Arena :=
  ((a.detach child).update parent fun c => { c with children := c.children.push child }).setParent
    child (some parent)

/-- Puts a node in front of another one; nothing happens if that one hangs nowhere. -/
def insertBefore (a : Arena) (sibling child : Nat) : Arena :=
  let a := a.detach child
  match a.parent? sibling with
  | none => a
  | some p =>
    let row := (a.children p).toList
    let row := row.takeWhile (· ≠ sibling) ++ child :: row.dropWhile (· ≠ sibling)
    (a.setChildren p row.toArray).setParent child (some p)

/-- Moves all children of a node behind those of another one. -/
def moveChildren (a : Arena) (source target : Nat) : Arena :=
  (a.children source).foldl (fun a i => a.append target i) a

def extendText (a : Arena) (i : Nat) (s : String) : Arena :=
  a.update i fun c =>
    match c.content with
    | .text t => { c with content := .text (t ++ s) }
    | _ => c

/-- Appends text, which joins text that stands last already. -/
def appendText (a : Arena) (parent : Nat) (s : String) : Arena :=
  match (a.children parent).back? with
  | some last =>
    if (a.text? last).isSome then a.extendText last s
    else
      let (i, a) := a.add (.text s)
      a.append parent i
  | none =>
    let (i, a) := a.add (.text s)
    a.append parent i

def textBefore (a : Arena) (sibling : Nat) (s : String) : Arena :=
  let before := ((a.parent? sibling).map a.children).getD #[]
  let previous := (before.toList.takeWhile (· ≠ sibling)).getLast?
  match previous.bind fun i => (a.text? i).map fun _ => i with
  | some i => a.extendText i s
  | none =>
    let (i, a) := a.add (.text s)
    a.insertBefore sibling i

/-- Where the children of an element go: those of a template go into its contents. -/
def holder (a : Arena) (i : Nat) : Nat :=
  match a.tag? i with
  | some tag => if tag.isHtml "template" then ((a.children i)[0]?).getD i else i
  | none => i

/-- Adds an element; a template comes with its contents. -/
def addElement (a : Arena) (tag : Tag) : Nat × Arena :=
  let (i, a) := a.add (.element tag)
  if tag.isHtml "template" then
    let (c, a) := a.add .contents
    (i, a.append i c)
  else (i, a)

/-- Gives an element the attributes that it lacks. -/
def addMissing (a : Arena) (i : Nat) (attributes : List Attribute) : Arena :=
  a.update i fun c =>
    match c.content with
    | .element tag =>
      let missing := attributes.filter fun x => !tag.attributes.any (·.name = x.name)
      { c with content := .element { tag with attributes := tag.attributes ++ missing } }
    | _ => c

/-- The subtrees at some places, to a given depth. -/
def freezeAll (a : Arena) : Nat → List Nat → List Node
  | 0, _ => []
  | depth + 1, places =>
    places.filterMap fun i =>
      match a.cell? i with
      | none => none
      | some c =>
        let below := freezeAll a depth c.children.toList
        match c.content with
        | .document => none
        | .contents => some (.contents below)
        | .text s => some (.text s)
        | .comment s => some (.comment s)
        | .element tag => some (.element { tag with made := i } below)

/-- Whether an element hangs nowhere. -/
def isLost (a : Arena) (i : Nat) : Bool :=
  (a.tag? i).isSome && (a.parent? i).isNone

def freeze (a : Arena) : Document :=
  let depth := a.cells.size + 1
  { nodes := a.freezeAll depth (a.children 0).toList
    lost := a.freezeAll depth ((List.range a.cells.size).filter a.isLost) }

end Arena
end Harvest.Html
