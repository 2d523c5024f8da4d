import Harvest.Text.Category
import Harvest.Text.Script
import Harvest.Text.Property
import Harvest.Text.Fold
/-!
Regular expressions as trees. A pattern reads one character of a set, looks at a position without
reading, or combines other patterns; alternatives and repetitions prefer their first way to go on.
-/

namespace Harvest.Regex

open Harvest.Text (CharSet)

/-- A condition on a position between two characters. -/
inductive Look
  | startText
  | endText
  | startLine (crlf : Bool)
  | endLine (crlf : Bool)
  | wordBoundary (unicode negated : Bool)
  | wordStart (unicode half : Bool)
  | wordEnd (unicode half : Bool)
  deriving DecidableEq, Repr

inductive Pattern
  | empty
  | char (set : CharSet)
  | look (l : Look)
  | seq (a b : Pattern)
  | alt (a b : Pattern)
  | rep (p : Pattern) (least : Nat) (most : Option Nat) (greedy : Bool)
  | group (index : Nat) (p : Pattern)
  deriving DecidableEq, Repr, Inhabited

namespace Pattern

def concat : List Pattern → Pattern
  | [] => .empty
  | [p] => p
  | p :: ps => .seq p (concat ps)

def union : List Pattern → Pattern
  | [] => .empty
  | [p] => p
  | p :: ps => .alt p (union ps)

/-- Whether every match reads at least one character; a pattern that never matches does not
    count. -/
def consumes : Pattern → Bool
  | .empty => false
  | .char s => !s.ranges.isEmpty
  | .look _ => false
  | .seq a b => a.consumes || b.consumes
  | .alt a b => a.consumes && b.consumes
  | .rep p least _ _ => least != 0 && p.consumes
  | .group _ p => p.consumes

/-- Whether a group is left in a pattern; what repeats no times leaves none. -/
def hasGroup (i : Nat) : Pattern → Bool
  | .empty => false
  | .char _ => false
  | .look _ => false
  | .seq a b => a.hasGroup i || b.hasGroup i
  | .alt a b => a.hasGroup i || b.hasGroup i
  | .rep p _ _ _ => p.hasGroup i
  | .group j p => i = j || p.hasGroup i

/-- The bytes that a compiled set of characters is taken to need. -/
def setWeight (s : CharSet) : Nat :=
  match s.ranges with
  | [(lo, hi)] =>
    if lo = hi then 32 * (Char.ofNat lo).utf8Size else if hi < 128 then 32 else 120
  | rs => if rs.all fun (_, hi) => hi < 128 then 64 + 8 * rs.length else 64 + 28 * rs.length

/-- The bytes that a compiled pattern is taken to need. -/
def weight : Pattern → Nat
  | .empty => 32
  | .char s => setWeight s
  | .look _ => 32
  | .seq a b => a.weight + b.weight
  | .alt a b => 40 + a.weight + b.weight
  | .rep p least most _ =>
    let copies :=
      match most with
      | some m => max m 1
      | none => max least 1
    40 + copies * (p.weight + (if most.isSome then 40 else 0))
  | .group _ p => 64 + p.weight

/-- Patterns that would need more bytes than this are refused. -/
def maxWeight : Nat := 10 * Nat.pow 2 20

end Pattern

def wordSet : CharSet :=
  CharSet.ofRanges ((Text.Property.charSet Text.Property.alphabetic).ranges ++
    (Text.Category.charSet ["Mn", "Mc", "Me", "Nd", "Pc"]).ranges ++ [(0x200C, 0x200D)])

def digitSet : CharSet := Text.Category.charSet ["Nd"]

def spaceSet : CharSet := Text.Property.charSet Text.Property.whiteSpace

def asciiWordSet : CharSet := ⟨[(48, 57), (65, 90), (95, 95), (97, 122)]⟩

def asciiDigitSet : CharSet := ⟨[(48, 57)]⟩

def asciiSpaceSet : CharSet := ⟨[(9, 13), (32, 32)]⟩

end Harvest.Regex
