import Harvest.Number.Binary64
import Harvest.Text.Blank
/-!
Numbers as they are written in a language. The language decides which character divides the
fraction and which one groups the digits; blanks always group.
-/

namespace Harvest

structure Locale where
  /-- The tag that the separators were chosen by. -/
  tag : String
  decimal : Char
  group : Char
  deriving DecidableEq, Repr

namespace Locale

def commaAndDot : List String :=
  ["tr", "de", "es", "it", "pt", "nl", "id", "da", "el", "ro", "hr", "sl", "sr", "vi", "is", "ca",
   "az"]

def commaAndSpace : List String :=
  ["fr", "ru", "pl", "cs", "sk", "sv", "fi", "nb", "no", "uk", "hu", "bg", "lt", "lv", "et", "kk",
   "be"]

/-- The first subtag in lower case. -/
def language (tag : String) : String :=
  Text.lowered (String.ofList (tag.toList.takeWhile fun c => c ≠ '-' && c ≠ '_'))

/-- The separators of a language; those of English for a language that is not known. -/
def ofTag (tag : String) : Locale :=
  let language := language tag
  if commaAndDot.contains language then ⟨tag, ',', '.'⟩
  else if commaAndSpace.contains language then ⟨tag, ',', '\u00A0'⟩
  else ⟨tag, '.', ','⟩

def english : Locale := ofTag "en"

def isPlain (c : Char) : Bool := c.isDigit || c = '-' || c = '+'

/-- The characters of a number with a point for the fraction and without grouping; none if
    another character is found. -/
def canonical? (l : Locale) : List Char → Option (List Char)
  | [] => some []
  | c :: r =>
    if c = l.decimal then (canonical? l r).map ('.' :: ·)
    else if c = l.group || Text.isBlank c then canonical? l r
    else if isPlain c then (canonical? l r).map (c :: ·)
    else if c = '\u2212' then (canonical? l r).map ('-' :: ·)
    else none

def natOf (digits : List Char) : Nat :=
  digits.foldl (fun n c => n * 10 + (c.toNat - 48)) 0

/-- Digits with at most one point among them; at least one digit is needed. -/
def unsigned? (negative : Bool) (s : List Char) : Option Binary64 :=
  let (whole, fraction) := Text.splitFirst '.' s
  let fraction := fraction.getD []
  let digits := whole ++ fraction
  if digits.isEmpty || !digits.all Char.isDigit then none
  else some (Binary64.ofDecimal negative (natOf digits) (-(fraction.length : Int)))

/-- A decimal number with an optional sign. -/
def decimal? : List Char → Option Binary64
  | '-' :: r => unsigned? true r
  | '+' :: r => unsigned? false r
  | s => unsigned? false s

/-- Reads a number that is finite. -/
def parse? (l : Locale) (s : String) : Option Binary64 :=
  match l.canonical? (Text.trim s.toList) with
  | none => none
  | some chars => (decimal? chars).filter Binary64.isFinite

end Locale
end Harvest
