import Harvest.Regex.Pattern
import Harvest.Regex.Fault
/-!
Named sets of characters: the classes of a backslash and a letter, the ASCII classes of brackets,
and the properties of Unicode by name.
-/

namespace Harvest.Regex

open Harvest.Text (CharSet)

structure Flags where
  insensitive : Bool
  multiline : Bool
  dotAll : Bool
  lazy : Bool
  unicode : Bool
  crlf : Bool
  verbose : Bool
  deriving DecidableEq, Repr

/-- The flags that hold before a pattern sets any. -/
def Flags.initial : Flags :=
  ⟨false, false, false, false, true, false, false⟩

namespace Class

def asciiOnly (s : CharSet) : Bool :=
  s.ranges.all fun (_, hi) => hi < 128

/-- ASCII letters with their other case. -/
def foldAscii (s : CharSet) : CharSet :=
  let added := (List.range 26).flatMap fun i =>
    if s.holds (65 + i) || s.holds (97 + i) then [(65 + i, 65 + i), (97 + i, 97 + i)] else []
  CharSet.ofRanges (s.ranges ++ added)

def foldCase (f : Flags) (s : CharSet) : CharSet :=
  if !f.insensitive then s
  else if f.unicode then Text.Fold.close s
  else foldAscii s

/-- Negates a set on demand. Without Unicode a negated set would hold bytes that are no text. -/
def negateIf (f : Flags) (negated : Bool) (s : CharSet) : Except Fault CharSet :=
  if negated then if f.unicode then .ok s.complement else .error .notText
  else if f.unicode || asciiOnly s then .ok s
  else .error .notText

/-- The set of `\d`, `\s` or `\w`. -/
def perl (f : Flags) (kind : Char) : CharSet :=
  match kind with
  | 'd' => if f.unicode then digitSet else asciiDigitSet
  | 's' => if f.unicode then spaceSet else asciiSpaceSet
  | _ => if f.unicode then wordSet else asciiWordSet

/-- The set of an ASCII class by its name between the colons. -/
def ascii? (name : String) : Option CharSet :=
  match name with
  | "alnum" => some ⟨[(48, 57), (65, 90), (97, 122)]⟩
  | "alpha" => some ⟨[(65, 90), (97, 122)]⟩
  | "ascii" => some ⟨[(0, 127)]⟩
  | "blank" => some ⟨[(9, 9), (32, 32)]⟩
  | "cntrl" => some ⟨[(0, 31), (127, 127)]⟩
  | "digit" => some ⟨[(48, 57)]⟩
  | "graph" => some ⟨[(33, 126)]⟩
  | "lower" => some ⟨[(97, 122)]⟩
  | "print" => some ⟨[(32, 126)]⟩
  | "punct" => some ⟨[(33, 47), (58, 64), (91, 96), (123, 126)]⟩
  | "space" => some asciiSpaceSet
  | "upper" => some ⟨[(65, 90)]⟩
  | "word" => some asciiWordSet
  | "xdigit" => some ⟨[(48, 57), (65, 70), (97, 102)]⟩
  | _ => none

/-- General categories by long name, with the two-letter names that each stands for. -/
def categories : List (List String × List String) :=
  [(["l", "letter"], ["Lu", "Ll", "Lt", "Lm", "Lo"]),
   (["lc", "casedletter"], ["Lu", "Ll", "Lt"]),
   (["lu", "uppercaseletter"], ["Lu"]), (["ll", "lowercaseletter"], ["Ll"]),
   (["lt", "titlecaseletter"], ["Lt"]), (["lm", "modifierletter"], ["Lm"]),
   (["lo", "otherletter"], ["Lo"]),
   (["m", "mark", "combiningmark"], ["Mn", "Mc", "Me"]),
   (["mn", "nonspacingmark"], ["Mn"]), (["mc", "spacingmark"], ["Mc"]),
   (["me", "enclosingmark"], ["Me"]),
   (["n", "number"], ["Nd", "Nl", "No"]),
   (["nd", "decimalnumber", "digit"], ["Nd"]), (["nl", "letternumber"], ["Nl"]),
   (["no", "othernumber"], ["No"]),
   (["p", "punctuation", "punct"], ["Pc", "Pd", "Ps", "Pe", "Pi", "Pf", "Po"]),
   (["pc", "connectorpunctuation"], ["Pc"]), (["pd", "dashpunctuation"], ["Pd"]),
   (["ps", "openpunctuation"], ["Ps"]), (["pe", "closepunctuation"], ["Pe"]),
   (["pi", "initialpunctuation"], ["Pi"]), (["pf", "finalpunctuation"], ["Pf"]),
   (["po", "otherpunctuation"], ["Po"]),
   (["s", "symbol"], ["Sm", "Sc", "Sk", "So"]),
   (["sm", "mathsymbol"], ["Sm"]), (["sc", "currencysymbol"], ["Sc"]),
   (["sk", "modifiersymbol"], ["Sk"]), (["so", "othersymbol"], ["So"]),
   (["z", "separator"], ["Zs", "Zl", "Zp"]),
   (["zs", "spaceseparator"], ["Zs"]), (["zl", "lineseparator"], ["Zl"]),
   (["zp", "paragraphseparator"], ["Zp"]),
   (["c", "other"], ["Cc", "Cf", "Cs", "Co", "Cn"]),
   (["cc", "control", "cntrl"], ["Cc"]), (["cf", "format"], ["Cf"]),
   (["cs", "surrogate"], ["Cs"]), (["co", "privateuse"], ["Co"]),
   (["cn", "unassigned"], ["Cn"])]

def category? (name : String) : Option CharSet :=
  if name = "any" then some CharSet.all
  else if name = "assigned" then some (Text.Category.charSet ["Cn"]).complement
  else if name = "ascii" then some ⟨[(0, 127)]⟩
  else (categories.find? fun (ns, _) => ns.contains name).map fun (_, cs) =>
    Text.Category.charSet cs

/-- A property name in lower case without spaces, hyphens and underscores, and without a leading
    `is`. -/
def normalName (name : List Char) : String :=
  let kept := name.filter fun c => c ≠ ' ' && c ≠ '_' && c ≠ '-' && c.toNat < 128
  let low := kept.map Char.toLower
  match low with
  | 'i' :: 's' :: r => if r = ['c'] then "isc" else String.ofList r
  | _ => String.ofList low

/-- The set of a property given by one name. -/
def named? (name : String) : Option CharSet :=
  let own := if name = "cf" ∨ name = "sc" ∨ name = "lc" then none else Text.Property.charSet? name
  own.or ((category? name).or (Text.Script.charSet? name))

def valued? (name value : String) : Option CharSet :=
  if name = "gc" ∨ name = "generalcategory" then category? value
  else if name = "sc" ∨ name = "script" ∨ name = "scx" ∨ name = "scriptextensions" then
    Text.Script.charSet? value
  else none

/-- The set that the text between the braces of `\p` names, and whether it is negated. -/
def property? (content : List Char) : Option (Bool × CharSet) :=
  let split (mark : List Char) : Option (List Char × List Char) :=
    (List.range content.length).findSome? fun i =>
      if (content.drop i).take mark.length = mark then
        some (content.take i, content.drop (i + mark.length))
      else none
  let valued (parts : List Char × List Char) :=
    valued? (normalName parts.1) (normalName parts.2)
  match split ['!', '='] with
  | some parts => (valued parts).map (true, ·)
  | none =>
    match (split [':']).or (split ['=']) with
    | some parts => (valued parts).map (false, ·)
    | none => (named? (normalName content)).map (false, ·)

end Class
end Harvest.Regex
