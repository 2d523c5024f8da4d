import Harvest.Text.Normal
import Harvest.Text.Bidi
import Harvest.Text.Category
import Harvest.Text.Blank
import Harvest.Url.NameMapping
import Harvest.Url.Punycode
/-!
Host names in ASCII. Letters are lowered, characters outside ASCII are mapped, composed and
written in Punycode label by label, and names that the rules for such labels exclude are refused.
-/

namespace Harvest.Url.HostName

/-- The ASCII characters that no host name has. -/
def isForbidden (c : Char) : Bool :=
  c.toNat ≤ 0x20 || c.toNat = 0x7F || "%#/:<>?@[\\]^|".toList.contains c

/-- The mapping of a name, unless it has a forbidden character. -/
def mapped? : List Char → Option (List Char)
  | [] => some []
  | c :: r =>
    if c.toNat < 128 then (mapped? r).map (c.toLower :: ·)
    else
      match NameMapping.rule c with
      | .keep => (mapped? r).map (c :: ·)
      | .drop => mapped? r
      | .replace text => (mapped? r).map (text ++ ·)
      | .forbid => none

def markSet : Text.CharSet := Text.Category.charSet ["Mn", "Mc", "Me"]

/-- Whether a character of a decoded label is one that the mapping keeps. -/
def isKept (c : Char) : Bool :=
  if c.toNat < 128 then !c.isUpper && !isForbidden c
  else
    match NameMapping.rule c with
    | .keep => true
    | _ => false

/-- Whether a joiner between two texts is allowed: after a mark that suppresses a vowel, or, for
    the non-joiner, between letters that would join. -/
def joinerAllowed (before after : List Char) (c : Char) : Bool :=
  let afterVirama :=
    match before.getLast? with
    | some d => Text.Normal.combiningClass d.toNat == 9
    | none => false
  let joinType (s : List Char) : Nat :=
    match s.dropWhile fun d => Text.Bidi.joiningType d == 1 with
    | d :: _ => Text.Bidi.joiningType d
    | [] => 0
  let left := joinType before.reverse
  let right := joinType after
  afterVirama || (c.toNat == 0x200C && (left == 2 || left == 4) && (right == 3 || right == 4))

def joinersAllowed (before : List Char) : List Char → Bool
  | [] => true
  | c :: r =>
    (if c.toNat = 0x200C ∨ c.toNat = 0x200D then joinerAllowed before r c else true) &&
      joinersAllowed (before ++ [c]) r

/-- Whether a label outside ASCII may be encoded. -/
def labelAllowed (label : List Char) : Bool :=
  label.all isKept && joinersAllowed [] label &&
    (match label with
    | c :: _ => !markSet.contains c
    | [] => true)

/-- Classes of direction by place: left-to-right 0, right-to-left 1 and 2, Arabic number 3,
    European number 4, nonspacing mark 10. -/
def isRightToLeft (label : List Char) : Bool :=
  label.any fun c => [1, 2, 3].contains (Text.Bidi.directionClass c)

/-- The rule for labels of a name that has a right-to-left label. -/
def directionAllowed (label : List Char) : Bool :=
  match label.map Text.Bidi.directionClass with
  | [] => true
  | first :: rest =>
    let all := first :: rest
    let last := (all.reverse.dropWhile (· == 10)).head?.getD 10
    if first = 0 then
      all.all [0, 4, 5, 6, 7, 8, 9, 10].contains && (last == 0 || last == 4)
    else if first = 1 ∨ first = 2 then
      all.all [1, 2, 3, 4, 5, 6, 7, 8, 9, 10].contains && [1, 2, 3, 4].contains last &&
        !(all.contains 4 && all.contains 3)
    else false

def encodedStart : List Char := "xn--".toList

def isAscii (s : List Char) : Bool := s.all fun c => c.toNat < 128

/-- The Unicode form of a label that may be encoded already. -/
def decodedLabel? (label : List Char) : Option (List Char) :=
  if label.take 4 = encodedStart then
    match Punycode.decode? (label.drop 4) with
    | none => none
    | some s =>
      if isAscii s || !labelAllowed s || Text.Normal.composed s ≠ s then none else some s
  else if isAscii label || labelAllowed label then some label
  else none

def encodedLabel (label : List Char) : List Char :=
  if isAscii label then label else encodedStart ++ Punycode.encode label

def toAscii? (name : List Char) : Option (List Char) := do
  let mapped ← mapped? name
  if mapped.any isForbidden then none
  else
    let composed := if isAscii mapped then mapped else Text.Normal.composed mapped
    let labels ← (Text.splitChars (· = '.') composed).mapM decodedLabel?
    if labels.any isRightToLeft && !labels.all directionAllowed then none
    else some (['.'].intercalate (labels.map encodedLabel))

end Harvest.Url.HostName
