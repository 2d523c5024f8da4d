import Harvest.Regex.Reader
import Harvest.Regex.Search
/-!
Regular expressions. `compile` reads one, `captures` finds its first match in a text, and
`replaceFirst` puts an expanded template in the place of that match.
-/

namespace Harvest

structure Regex where
  pattern : Regex.Pattern
  /-- The names of the groups, in the order of their opening parentheses; a group that is not left
      in the pattern has none. -/
  names : List (Option String)
  program : Regex.Program

namespace Regex

def compile (source : String) : Except Fault Regex := do
  let (p, names) ← Pattern.parse source.toList
  .ok ⟨p, names.zipIdx.map fun (name, i) => if p.hasGroup (i + 1) then name else none, p.program⟩

/-- A match: the text and the positions saved in it. -/
structure Match where
  text : Array Char
  slots : Slots

def Match.slice (m : Match) (i j : Nat) : String :=
  String.ofList (m.text.extract i j).toList

/-- The text that a group took part with; group zero is the whole match. -/
def Match.group? (m : Match) (i : Nat) : Option String :=
  match m.slots.lookup (2 * i), m.slots.lookup (2 * i + 1) with
  | some a, some b => some (m.slice a b)
  | _, _ => none

def Match.start (m : Match) : Nat := (m.slots.lookup 0).getD 0

def Match.stop (m : Match) : Nat := (m.slots.lookup 1).getD 0

def captures? (r : Regex) (s : String) : Option Match :=
  let text := s.toList.toArray
  (r.program.find text).map fun slots => ⟨text, slots⟩

def isMatch (r : Regex) (s : String) : Bool :=
  (r.captures? s).isSome

def nameIndex? (r : Regex) (name : String) : Option Nat :=
  (r.names.findIdx? (· == some name)).map (· + 1)

/-- The named groups of a match in order, each with the text it took part with. -/
def namedGroups (r : Regex) (m : Match) : List (String × Option String) :=
  r.names.zipIdx.filterMap fun (name, i) => name.map fun n => (n, m.group? (i + 1))

/-- The number a template's reference stands for, if it is one: decimal digits after an optional
    plus sign. -/
def referenceNumber? (s : List Char) : Option Nat :=
  let digits :=
    match s with
    | '+' :: r => r
    | r => r
  if digits.isEmpty || !digits.all Char.isDigit then none
  else some (digits.foldl (fun n c => n * 10 + (c.toNat - 48)) 0)

/-- The text that a reference in a template stands for; unknown groups are empty. -/
def reference (r : Regex) (m : Match) (name : List Char) : String :=
  let index :=
    match referenceNumber? name with
    | some n => some n
    | none => r.nameIndex? (String.ofList name)
  (index.bind m.group?).getD ""

def inReference (c : Char) : Bool := c.isAlphanum || c = '_'

/-- Writes a template: `$name`, `$1` and the like in braces stand for groups, `$$` for a dollar
    sign, and everything else for itself. -/
def expand (r : Regex) (m : Match) : Nat → List Char → String
  | 0, _ => ""
  | _ + 1, [] => ""
  | fuel + 1, '$' :: rest =>
    match rest with
    | '$' :: rest' => "$" ++ expand r m fuel rest'
    | '\x7b' :: rest' =>
      match rest'.dropWhile (· ≠ '\x7d') with
      | _ :: after => reference r m (rest'.takeWhile (· ≠ '\x7d')) ++ expand r m fuel after
      | [] => "$" ++ expand r m fuel rest
    | _ =>
      let name := rest.takeWhile inReference
      if name.isEmpty then "$" ++ expand r m fuel rest
      else reference r m name ++ expand r m fuel (rest.dropWhile inReference)
  | fuel + 1, c :: rest => String.ofList [c] ++ expand r m fuel rest

/-- The text with its first match replaced by the expanded template. -/
def replaceFirst (r : Regex) (s template : String) : String :=
  match r.captures? s with
  | none => s
  | some m =>
    m.slice 0 m.start ++ expand r m (template.length + 1) template.toList ++
      m.slice m.stop m.text.size

end Regex
end Harvest
