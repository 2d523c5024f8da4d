import Harvest.Css.Reader
import Harvest.Html.Place
/-!
Which elements a selector selects. An element is selected when its place satisfies one of the
alternatives; a combinator asks for a place in the given direction that the rest selects.
-/

namespace Harvest.Css

open Html

/-- What `:scope` and relative selectors refer to, by address. -/
structure Reference where
  scope : Option (List Nat)
  anchor : Option (List Nat)

namespace Match

def isSeparator (c : Char) : Bool :=
  c = ' ' || c = '\t' || c = '\n' || c = '\r' || c.toNat = 12

def isPart (part : List Char) : List Char → Bool
  | [] => part.isEmpty
  | c :: r => part.isPrefixOf (c :: r) || isPart part r

/-- How a value compares, letter case being settled. -/
def compares (c : Comparison) (wanted actual : List Char) : Bool :=
  match c with
  | .equal => actual == wanted
  | .word => !wanted.isEmpty && (Text.splitChars isSeparator actual).contains wanted
  | .dash => actual == wanted || (wanted ++ ['-']).isPrefixOf actual
  | .start => !wanted.isEmpty && wanted.isPrefixOf actual
  | .stop => !wanted.isEmpty && wanted.reverse.isPrefixOf actual.reverse
  | .part => !wanted.isEmpty && isPart wanted actual

def ignores (l : LetterCase) (t : Tag) : Bool :=
  match l with
  | .exact => false
  | .ignored => true
  | .ignoredInHtml => t.vocabulary = .html

/-- A name as it is looked up on an element: in lower case on elements of HTML. -/
def nameOn (t : Tag) (name : String) : String :=
  if t.vocabulary = .html then Text.lowered name else name

/-- The values of the attributes that a name may mean. -/
def valuesOf (space : NameSpace) (name : String) (t : Tag) : List String :=
  let name := nameOn t name
  (t.attributes.filter fun a => a.name = name && (space = .any || !a.qualified)).map
    Attribute.value

def hasClass (t : Tag) (name : String) : Bool :=
  match t.attribute? "class" with
  | some v => (Text.splitChars Text.isBlank v.toList).contains name.toList
  | none => false

def holds (c : Comparison) (wanted : String) (l : LetterCase) (t : Tag) (actual : String) : Bool :=
  if ignores l t then
    compares c (wanted.toList.map Char.toLower) (actual.toList.map Char.toLower)
  else compares c wanted.toList actual.toList

def sameType (a b : Tag) : Bool := a.vocabulary = b.vocabulary && a.name = b.name

/-- The number of an element among its siblings from one side, the first being one. -/
def number (onlySame fromEnd : Bool) (p : Place) : Nat :=
  let others := if fromEnd then p.next else p.previous
  1 + (if onlySame then others.filter fun q => sameType q.tag p.tag else others).length

/-- Whether some natural multiple of the step, added to the offset, is the number. -/
def Count.admits (c : Count) (n : Nat) : Bool :=
  let d : Int := n - c.offset
  if c.step = 0 then d = 0 else d % c.step = 0 && 0 ≤ d / c.step

def isEmptyElement (p : Place) : Bool :=
  !p.nodes.any fun
    | .element .. => true
    | .text _ => true
    | _ => false

/-- The places that a combinator leads to. -/
def reached (c : Combinator) (p : Place) : List Place :=
  match c with
  | .descendant => p.ancestors
  | .child => p.parent?.toList
  | .nextSibling => p.previous.take 1
  | .laterSibling => p.previous

/-- The places that a relative selector may select from an anchor. -/
def around (p : Place) : List Place :=
  p.descendants ++ p.next.flatMap fun q => q :: q.descendants

mutual

def simple (r : Reference) (p : Place) : Simple → Bool
  | .type name => p.tag.name = nameOn p.tag name
  | .universal => true
  | .unnamed => false
  | .id v => p.tag.attribute? "id" = some v
  | .ofClass c => hasClass p.tag c
  | .attribute space name => !(valuesOf space name p.tag).isEmpty
  | .compare space name c v l => (valuesOf space name p.tag).any (holds c v l p.tag)
  | .root => p.isRoot
  | .empty => isEmptyElement p
  | .scope =>
    match r.scope with
    | some a => p.address = a
    | none => p.isRoot
  | .nth c => Count.admits c (number c.sameType c.fromEnd p)
  | .only sameType => number sameType false p = 1 && number sameType true p = 1
  | .isNot choices => !any r choices p
  | .is choices => any r choices p
  | .has choices => (around p).any (any { r with anchor := some p.address } choices)
  | .anchor => r.anchor = some p.address
  | .never => false

def all (r : Reference) (p : Place) : List Simple → Bool
  | [] => true
  | s :: more => simple r p s && all r p more

def complex (r : Reference) : Complex → Place → Bool
  | .one conditions, p => all r p conditions
  | .link left c conditions, p => all r p conditions && (reached c p).any (complex r left)

def any (r : Reference) : List Complex → Place → Bool
  | [], _ => false
  | c :: more, p => complex r c p || any r more p

end

end Match

namespace Selector

/-- Whether a selector selects an element of a document. -/
def selects (s : Selector) (p : Place) : Bool :=
  Match.any ⟨none, none⟩ s.choices p

/-- The selected elements of a document in the order in which they were made. -/
def inDocument (s : Selector) (d : Document) : List Place :=
  d.elements.filter s.selects

/-- The selected elements below an element in document order, which is what `:scope` means. -/
def below (s : Selector) (p : Place) : List Place :=
  p.descendants.filter (Match.any ⟨some p.address, none⟩ s.choices)

end Selector
end Harvest.Css
