import Harvest.Html.Node
/-!
Elements seen in their documents. A place is an element together with its siblings on both sides
and the place of its parent, so that matching can look in every direction. The address of a place
tells it from all other places of the document.
-/

namespace Harvest.Html

/-- Where an element stands among its siblings. -/
structure Position where
  /-- The siblings in front, the nearest first. -/
  before : List Node
  after : List Node
  /-- Whether the element stands at the top of the document. -/
  top : Bool
  /-- The indices on the way up to the top. -/
  address : List Nat
  deriving Repr

inductive Place
  /-- An element that has no parent element. -/
  | orphan (tag : Tag) (children : List Node) (position : Position)
  | child (parent : Place) (tag : Tag) (children : List Node) (position : Position)
  deriving Repr

namespace Place

def tag : Place → Tag
  | orphan t _ _ => t
  | child _ t _ _ => t

def nodes : Place → List Node
  | orphan _ c _ => c
  | child _ _ c _ => c

def position : Place → Position
  | orphan _ _ p => p
  | child _ _ _ p => p

def address (p : Place) : List Nat := p.position.address

def parent? : Place → Option Place
  | orphan .. => none
  | child q _ _ _ => some q

/-- The places of the parent, of its parent and so on. -/
def ancestors : Place → List Place
  | orphan .. => []
  | child q _ _ _ => q :: q.ancestors

/-- Whether this is the root element of the document. -/
def isRoot : Place → Bool
  | orphan _ _ p => p.top
  | child .. => false

/-- The same parent with another element below it. -/
def withElement (p : Place) (t : Tag) (c : List Node) (position : Position) : Place :=
  match p with
  | orphan .. => .orphan t c position
  | child q _ _ _ => .child q t c position

def shiftAddress (distance : Nat) : List Nat → List Nat
  | [] => []
  | i :: r => (i - distance) :: r

/-- The element siblings in front, the nearest first. -/
def previousFrom (p : Place) : List Node → List Node → List Nat → List Place
  | [], _, _ => []
  | n :: before, after, address =>
    let address := shiftAddress 1 address
    let rest := previousFrom p before (n :: after) address
    match n with
    | .element t c =>
      p.withElement t c ⟨before, after, p.position.top, address⟩ :: rest
    | _ => rest

def selfNode (p : Place) : Node := .element p.tag p.nodes

def previous (p : Place) : List Place :=
  p.previousFrom p.position.before (p.selfNode :: p.position.after) p.address

/-- The element siblings behind, the nearest first. -/
def nextFrom (p : Place) : List Node → List Node → Nat → List Nat → List Place
  | _, [], _, _ => []
  | before, n :: after, i, above =>
    let rest := nextFrom p (n :: before) after (i + 1) above
    match n with
    | .element t c =>
      p.withElement t c ⟨before, after, p.position.top, i :: above⟩ :: rest
    | _ => rest

def next (p : Place) : List Place :=
  let address := p.address
  p.nextFrom (p.selfNode :: p.position.before) p.position.after (address.headD 0 + 1) address.tail

end Place

mutual

/-- The elements of a subtree in document order, `make` giving the place of the topmost one. -/
def placesIn (make : Tag → List Node → Place) (address : List Nat) : Node → List Place
  | .text _ => []
  | .comment _ => []
  | .contents nodes =>
    placesAmong (fun t c position => .orphan t c position) false address [] 0 nodes
  | .element t c =>
    let here := make t c
    here :: placesAmong (fun t c position => .child here t c position) false address [] 0 c

/-- The elements below a list of siblings in document order. -/
def placesAmong (make : Tag → List Node → Position → Place) (top : Bool) (above : List Nat)
    (before : List Node) (i : Nat) : List Node → List Place
  | [] => []
  | n :: after =>
    placesIn (fun t c => make t c ⟨before, after, top, i :: above⟩) (i :: above) n ++
      placesAmong make top above (n :: before) (i + 1) after

end

/-- The places below an element in document order. -/
def Place.descendants (p : Place) : List Place :=
  placesAmong (fun t c position => .child p t c position) false p.address [] 0 p.nodes

/-- The elements of a document in document order. -/
def Document.places (d : Document) : List Place :=
  placesAmong (fun t c position => .orphan t c position) true [] [] 0 d.nodes

/-- The elements below some nodes that hang nowhere; the nodes are no elements of the document. -/
def placesBelowLost (i : Nat) : List Node → List Place
  | [] => []
  | .element t c :: r =>
    (Place.orphan t c ⟨[], [], false, [i]⟩).descendants ++ placesBelowLost (i + 1) r
  | _ :: r => placesBelowLost (i + 1) r

/-- All elements in the order in which they were made. -/
def Document.elements (d : Document) : List Place :=
  (d.places ++ placesBelowLost d.nodes.length d.lost).mergeSort fun p q => p.tag.made ≤ q.tag.made

theorem Document.elements_eq_places {d : Document}
    (hlost : placesBelowLost d.nodes.length d.lost = [])
    (hmade : d.places.Pairwise fun p q => p.tag.made ≤ q.tag.made) : d.elements = d.places := by
  rw [elements, hlost, List.append_nil, List.mergeSort_of_pairwise (by simpa using hmade)]

def Document.root? (d : Document) : Option Place :=
  d.places.find? Place.isRoot

end Harvest.Html
