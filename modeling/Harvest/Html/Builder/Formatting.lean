import Harvest.Html.Builder.Basic
/-!
Formatting elements. They are taken up again after another element closed them, and misnested
ones are put in order when they end.
-/

namespace Harvest.Html.Builder

def pushMarker (b : Builder) : Builder :=
  { b with formatting := .marker :: b.formatting }

def Formatting.isMarker : Formatting → Bool
  | .marker => true
  | .element .. => false

def Formatting.isAt (place : Nat) : Formatting → Bool
  | .marker => false
  | .element i _ => i = place

/-- Forgets the formatting since the last marker. -/
def clearToMarker (b : Builder) : Builder :=
  { b with formatting := (b.formatting.dropWhile fun f => !f.isMarker).tail }

def sinceMarker (b : Builder) : List Formatting :=
  b.formatting.takeWhile fun f => !f.isMarker

/-- The latest formatting element with a name since the last marker. -/
def latest? (b : Builder) (name : String) : Option (Nat × Tag) :=
  b.sinceMarker.findSome? fun
    | .element i t => if t.name = name then some (i, t) else none
    | .marker => none

def forget (b : Builder) (place : Nat) : Builder :=
  { b with formatting := b.formatting.filter fun f => !f.isAt place }

def close (b : Builder) (place : Nat) : Builder :=
  { b with opened := b.opened.filter (· ≠ place) }

def sameTag (a b : Tag) : Bool :=
  a.name = b.name && a.attributes.length = b.attributes.length &&
    a.attributes.all b.attributes.contains

/-- Opens a formatting element. Of more than three equal ones the earliest is forgotten. -/
def openFormatting (b : Builder) (name : String) (attributes : List Attribute) : Builder :=
  let tag : Tag := { vocabulary := .html, name, attributes }
  let equal := b.sinceMarker.filterMap fun
    | .element i t => if sameTag t tag then some i else none
    | .marker => none
  let b :=
    match equal.getLast? with
    | some earliest => if 3 ≤ equal.length then b.forget earliest else b
    | none => b
  let b := b.openTag tag
  match b.current? with
  | some i => { b with formatting := .element i tag :: b.formatting }
  | none => b

/-- Opens the formatting elements again that were closed since the last marker. -/
def reconstruct (b : Builder) : Builder :=
  let isClosed : Formatting → Bool
    | .marker => false
    | .element i _ => !b.opened.contains i
  let closed := b.formatting.takeWhile isClosed
  let kept := b.formatting.dropWhile isClosed
  closed.reverse.foldl
    (fun b f =>
      match f with
      | .marker => b
      | .element _ tag =>
        let b := b.openTag tag
        match b.current? with
        | some i => { b with formatting := .element i tag :: b.formatting }
        | none => b)
    { b with formatting := kept }

/-- Closes the nearest element with a name, unless a special element stands before it. -/
def closeOther (b : Builder) (name : String) : Builder :=
  let rec look : List Nat → Builder
    | [] => b
    | i :: r =>
      match b.tag? i with
      | none => look r
      | some t =>
        if t.isHtml name then (b.closeImplied [name]).popThroughPlace i
        else if isSpecial t then b
        else look r
  look b.opened

/-- Where a new formatting element goes among the others. -/
inductive Bookmark
  | replacing (place : Nat)
  | newerThan (place : Nat)

/-- The elements between a block and the formatting element it is moved out of. -/
structure Nesting where
  builder : Builder
  /-- The topmost node that was put together so far. -/
  node : Nat
  bookmark : Bookmark

def copyElement (b : Builder) (tag : Tag) : Nat × Builder :=
  let (i, arena) := b.arena.addElement tag
  (i, { b with arena := arena })

/-- Copies the formatting elements between the block and the formatting element, and drops the
    other elements there from the open ones. At most three are copied. -/
def copyBetween (block : Nat) : Nat → List Nat → Nesting → Nesting
  | _, [], n => n
  | count, i :: r, n =>
    let b := n.builder
    let entry := b.formatting.findSome? fun
      | .element j t => if j = i then some t else none
      | .marker => none
    match entry with
    | none => copyBetween block (count + 1) r { n with builder := b.close i }
    | some tag =>
      if 3 ≤ count then copyBetween block (count + 1) r { n with builder := (b.forget i).close i }
      else
        let (copy, b) := b.copyElement tag
        let b :=
          { b with
            opened := b.opened.map fun j => if j = i then copy else j
            formatting := b.formatting.map fun f => if f.isAt i then .element copy tag else f
            arena := b.arena.append copy n.node }
        let bookmark := if n.node = block then .newerThan copy else n.bookmark
        copyBetween block (count + 1) r ⟨b, copy, bookmark⟩

def putFormatting (entry : Formatting) (bookmark : Bookmark) (row : List Formatting) :
    List Formatting :=
  match bookmark with
  | .replacing i => row.map fun f => if f.isAt i then entry else f
  | .newerThan i => row.flatMap fun f => if f.isAt i then [entry, f] else [f]

/-- One round of ending a formatting element; the answer says whether another may follow. -/
def adoptOnce (b : Builder) (name : String) : Builder × Bool :=
  match b.latest? name with
  | none => (b.closeOther name, false)
  | some (i, tag) =>
    if !b.opened.contains i then (b.forget i, false)
    else if !b.placeInScope i then (b, false)
    else
      let above := b.opened.takeWhile (· ≠ i)
      let block? := above.reverse.find? fun j => ((b.tag? j).map isSpecial).getD false
      match block? with
      | none => ((b.popThroughPlace i).forget i, false)
      | some block =>
        let ancestor := ((b.opened.dropWhile (· ≠ i)).tail.head?).getD 0
        let between := (above.dropWhile (· ≠ block)).tail
        let n := copyBetween block 0 between ⟨b, block, .replacing i⟩
        let b := n.builder
        let b := b.place (b.target ancestor) n.node
        let (copy, b) := b.copyElement tag
        let arena := (b.arena.moveChildren block copy).append block copy
        let entry := Formatting.element copy tag
        let b := { b with arena := arena, formatting := putFormatting entry n.bookmark b.formatting }
        let b := (b.forget i).close i
        let row := b.opened.flatMap fun j => if j = block then [copy, j] else [j]
        ({ b with opened := row }, true)

def adoptRounds (name : String) : Nat → Builder → Builder
  | 0, b => b
  | rounds + 1, b =>
    match b.adoptOnce name with
    | (b, true) => adoptRounds name rounds b
    | (b, false) => b

/-- Ends a formatting element, wherever it was opened. -/
def adopt (b : Builder) (name : String) : Builder :=
  match b.current? with
  | some i =>
    if b.isNamed [name] i && !b.formatting.any (·.isAt i) then b.pop
    else adoptRounds name 8 b
  | none => b

end Harvest.Html.Builder
