/-!
Selectors. A complex selector is read from its subject to the left: a compound of conditions on
one element, and a combinator that relates the element to one that the rest selects.
-/

namespace Harvest.Css

inductive Combinator
  | descendant
  | child
  | nextSibling
  | laterSibling
  deriving DecidableEq, Repr

/-- How letter case counts in an attribute's value. -/
inductive LetterCase
  | exact
  | ignored
  /-- Ignored on elements of HTML. -/
  | ignoredInHtml
  deriving DecidableEq, Repr

inductive Comparison
  | equal
  | word
  | dash
  | start
  | stop
  | part
  deriving DecidableEq, Repr

/-- Which siblings are counted, and from which side. -/
structure Count where
  step : Int
  offset : Int
  sameType : Bool
  fromEnd : Bool
  deriving DecidableEq, Repr

/-- Vocabulary of an attribute's name. -/
inductive NameSpace
  | none
  | any
  deriving DecidableEq, Repr

mutual

inductive Simple
  | type (name : String)
  | universal
  /-- An element of no vocabulary, which no document has. -/
  | unnamed
  | id (value : String)
  | ofClass (name : String)
  | attribute (space : NameSpace) (name : String)
  | compare (space : NameSpace) (name : String) (comparison : Comparison) (value : String)
      (letters : LetterCase)
  | root
  | empty
  | scope
  | nth (count : Count)
  | only (sameType : Bool)
  | isNot (choices : List Complex)
  | is (choices : List Complex)
  | has (choices : List Complex)
  /-- The element that a relative selector starts from. -/
  | anchor
  | never

inductive Complex
  | one (conditions : List Simple)
  | link (left : Complex) (combinator : Combinator) (conditions : List Simple)

end

/-- A list of alternatives. -/
structure Selector where
  choices : List Complex

end Harvest.Css
