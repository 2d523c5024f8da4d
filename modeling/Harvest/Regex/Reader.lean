import Harvest.Text.Blank
import Harvest.Regex.Class
/-!
Reading the text of a regular expression. A group is read by one loop over alternatives and items;
flags set inside a group hold to its end. Reading gives the pattern and the names of its groups in
order, or the reason why the text is refused.
-/

namespace Harvest.Regex

open Harvest.Text (CharSet)

namespace Reader

/-- The names of the groups seen so far, the last group first. -/
abbrev Names := List (Option String)

/-- Drops blanks and comments, as patterns written with the verbose flag allow. -/
def skipBlanks : Bool → List Char → List Char
  | _, [] => []
  | true, c :: r => skipBlanks (c != '\n') r
  | false, c :: r =>
    if Text.isBlank c then skipBlanks false r
    else if c = '#' then skipBlanks true r
    else c :: r

def skip (f : Flags) (s : List Char) : List Char :=
  if f.verbose then skipBlanks false s else s

def isMeta (c : Char) : Bool :=
  "\\.+*?()|[]\x7b\x7d^$#&-~".toList.contains c

/-- The characters that a backslash may make literal. -/
def isEscapable (c : Char) : Bool :=
  isMeta c || (c.toNat < 128 && !c.isAlphanum && c ≠ '<' && c ≠ '>')

def hexValue? (c : Char) : Option Nat :=
  if '0' ≤ c ∧ c ≤ '9' then some (c.toNat - 48)
  else if 'a' ≤ c ∧ c ≤ 'f' then some (c.toNat - 87)
  else if 'A' ≤ c ∧ c ≤ 'F' then some (c.toNat - 55)
  else none

def scalar? (n : Nat) : Option Char :=
  if n < 0xD800 ∨ (0xDFFF < n ∧ n < 0x110000) then some (Char.ofNat n) else none

def hexNumber? : List Char → Option Nat
  | [] => none
  | s => s.foldl (fun acc c => do some (min ((← acc) * 16 + (← hexValue? c)) 0x110000)) (some 0)

/-- What one character or escape means: a character, a position or a set. `byte` marks a
    character given by two hexadecimal digits. -/
inductive Atom
  | char (c : Char) (byte : Bool)
  | look (l : Look)
  | set (s : CharSet)

/-- A character by its number: `width` digits, or any number of them in braces. -/
def hexEscape (f : Flags) (width : Nat) (s : List Char) : Except Fault (Atom × List Char) :=
  match skip f s with
  | '\x7b' :: r =>
    let digits := (r.takeWhile (· ≠ '\x7d')).filter fun c => !(f.verbose && Text.isBlank c)
    match r.dropWhile (· ≠ '\x7d'), (hexNumber? digits).bind scalar? with
    | _ :: r', some c => .ok (.char c false, r')
    | _, _ => .error .escape
  | r =>
    let digits := r.take width
    if digits.length < width then .error .escape
    else
      match (hexNumber? digits).bind scalar? with
      | some c => .ok (.char c (width = 2), r.drop width)
      | none => .error .escape

/-- The set that a property stands for. -/
def propertyAtom (f : Flags) (negated : Bool) (content : List Char) : Except Fault Atom :=
  if !f.unicode then .error .notText
  else
    match Class.property? content with
    | none => .error (.property (String.ofList content))
    | some (inverse, s) =>
      (Class.negateIf f (negated != inverse) (Class.foldCase f s)).map Atom.set

/-- A property after `\p` or `\P`. -/
def propertyEscape (f : Flags) (negated : Bool) (s : List Char) :
    Except Fault (Atom × List Char) :=
  match skip f s with
  | '\x7b' :: r =>
    match r.dropWhile (· ≠ '\x7d') with
    | _ :: r' => (propertyAtom f negated (r.takeWhile (· ≠ '\x7d'))).map (·, r')
    | [] => .error .escape
  | '\\' :: _ => .error .escape
  | c :: r => (propertyAtom f negated [c]).map (·, r)
  | [] => .error .escape

/-- The word boundary of `\b`, or the half or start or end named in braces behind it. -/
def boundaryEscape (f : Flags) (s : List Char) : Except Fault (Atom × List Char) :=
  match s with
  | '\x7b' :: r =>
    let r := skip f r
    let inName (c : Char) : Bool := c.isAlpha || c = '-'
    match r with
    | [] => .error .repetitionCount
    | c :: _ =>
      if !inName c then .ok (.look (.wordBoundary f.unicode false), s)
      else
        let name := String.ofList (r.takeWhile inName)
        match r.dropWhile inName with
        | '\x7d' :: r' =>
          match name with
          | "start" => .ok (.look (.wordStart f.unicode false), r')
          | "end" => .ok (.look (.wordEnd f.unicode false), r')
          | "start-half" => .ok (.look (.wordStart f.unicode true), r')
          | "end-half" => .ok (.look (.wordEnd f.unicode true), r')
          | _ => .error .escape
        | _ => .error .escape
  | _ => .ok (.look (.wordBoundary f.unicode false), s)

/-- An escape after its backslash. -/
def escape (f : Flags) : List Char → Except Fault (Atom × List Char)
  | [] => .error .escape
  | c :: r =>
    if c.isDigit then .error .backreference
    else if c = 'x' then hexEscape f 2 r
    else if c = 'u' then hexEscape f 4 r
    else if c = 'U' then hexEscape f 8 r
    else if c = 'p' then propertyEscape f false r
    else if c = 'P' then propertyEscape f true r
    else if c = 'd' ∨ c = 's' ∨ c = 'w' then .ok (.set (Class.perl f c), r)
    else if c = 'D' ∨ c = 'S' ∨ c = 'W' then do
      let s ← Class.negateIf f true (Class.perl f c.toLower)
      .ok (.set s, r)
    else if isEscapable c then .ok (.char c false, r)
    else
      match c with
      | 'a' => .ok (.char (Char.ofNat 7) false, r)
      | 'f' => .ok (.char (Char.ofNat 12) false, r)
      | 't' => .ok (.char '\t' false, r)
      | 'n' => .ok (.char '\n' false, r)
      | 'r' => .ok (.char '\r' false, r)
      | 'v' => .ok (.char (Char.ofNat 11) false, r)
      | 'A' => .ok (.look .startText, r)
      | 'z' => .ok (.look .endText, r)
      | 'b' => boundaryEscape f r
      | 'B' => .ok (.look (.wordBoundary f.unicode true), r)
      | '<' => .ok (.look (.wordStart f.unicode false), r)
      | '>' => .ok (.look (.wordEnd f.unicode false), r)
      | _ => .error .escape

/-- An operation between the sets of a bracketed class. -/
inductive SetOp
  | inter
  | diff
  | symmDiff

/-- The part of a bracketed class read so far: ranges since the last operator, and the operator
    with its left side. -/
structure Bracket where
  ranges : List (Nat × Nat)
  pending : Option (SetOp × CharSet)

def Bracket.start : Bracket := ⟨[], none⟩

def Bracket.add (b : Bracket) (s : CharSet) : Bracket :=
  { b with ranges := s.ranges ++ b.ranges }

/-- The set of a bracket so far, with its pending operator applied. -/
def Bracket.value (f : Flags) (b : Bracket) : CharSet :=
  let right := CharSet.ofRanges b.ranges
  match b.pending with
  | none => right
  | some (op, left) =>
    let left := Class.foldCase f left
    let right := Class.foldCase f right
    match op with
    | .inter => left.inter right
    | .diff => left.diff right
    | .symmDiff => left.symmDiff right

def Bracket.operator (f : Flags) (b : Bracket) (op : SetOp) : Bracket :=
  ⟨[], some (op, b.value f)⟩

/-- One character, escape or plain, inside brackets. -/
def bracketAtom (f : Flags) : List Char → Except Fault (Atom × List Char)
  | [] => .error .classUnclosed
  | '\\' :: r => escape f r
  | c :: r => .ok (.char c false, r)

/-- The code point of an end of a range. -/
def rangeEnd (f : Flags) : Atom → Except Fault Nat
  | .char c byte => if byte && !f.unicode && c.toNat > 127 then .error .notText else .ok c.toNat
  | _ => .error .classRange

def atomSet (f : Flags) : Atom → Except Fault CharSet
  | .char c byte => do
    let n ← rangeEnd f (.char c byte)
    .ok ⟨[(n, n)]⟩
  | .set s => .ok s
  | .look _ => .error .classEscape

/-- A range inside brackets, after its hyphen. The hyphen is literal before a closing bracket and
    before another one. -/
def bracketRange (f : Flags) (first : Atom) (s : List Char) :
    Except Fault (CharSet × List Char) :=
  match skip f s with
  | ']' :: _ => do .ok (← atomSet f first, '-' :: s)
  | '-' :: _ => do .ok (← atomSet f first, '-' :: s)
  | [] => .error .classUnclosed
  | r => do
    let (last, rest) ← bracketAtom f r
    let lo ← rangeEnd f first
    let hi ← rangeEnd f last
    if lo ≤ hi then .ok (⟨[(lo, hi)]⟩, rest) else .error .classRange

/-- A character, a range or a set inside brackets. -/
def bracketItem (f : Flags) (s : List Char) : Except Fault (CharSet × List Char) := do
  let (first, r) ← bracketAtom f s
  match skip f r with
  | [] => .error .classUnclosed
  | '-' :: r' => bracketRange f first r'
  | r' => .ok (← atomSet f first, r')

/-- An ASCII class, after the colon and the caret that open it. -/
def asciiName? (negated : Bool) (s : List Char) : Option (Bool × CharSet × List Char) :=
  match s.dropWhile (· ≠ ':') with
  | ':' :: ']' :: rest =>
    (Class.ascii? (String.ofList (s.takeWhile (· ≠ ':')))).map (negated, ·, rest)
  | _ => none

/-- An ASCII class such as `[:alpha:]`, after its opening bracket. -/
def asciiClass? : List Char → Option (Bool × CharSet × List Char)
  | ':' :: '^' :: r => asciiName? true r
  | ':' :: r => asciiName? false r
  | _ => none

/-- The hyphens and the bracket that are literal because they stand first. -/
def bracketStart (f : Flags) (s : List Char) : Except Fault (Bracket × List Char) :=
  let hyphens := s.takeWhile (· = '-')
  let b := if hyphens.isEmpty then Bracket.start else Bracket.start.add (CharSet.single '-')
  match skip f (s.dropWhile (· = '-')) with
  | [] => .error .classUnclosed
  | ']' :: r =>
    if hyphens.isEmpty then .ok (b.add (CharSet.single ']'), r) else .ok (b, ']' :: r)
  | r => .ok (b, r)

/-- The beginning of a bracketed class, and whether it is negated. -/
def bracketLead (f : Flags) (s : List Char) : Except Fault (Bool × Bracket × List Char) :=
  match skip f s with
  | '^' :: r => (bracketStart f (skip f r)).map (true, ·)
  | r => (bracketStart f r).map (false, ·)

mutual

/-- A bracketed class after its opening bracket. -/
def bracket (fuel : Nat) (f : Flags) (s : List Char) : Except Fault (CharSet × List Char) :=
  match fuel with
  | 0 => .error .classUnclosed
  | fuel + 1 => do
    let (negated, b, r) ← bracketLead f s
    let (set, rest) ← bracketBody fuel f b r
    let set ← Class.negateIf f negated (Class.foldCase f set)
    .ok (set, rest)

/-- The items of a bracketed class up to its closing bracket. -/
def bracketBody (fuel : Nat) (f : Flags) (b : Bracket) (s : List Char) :
    Except Fault (CharSet × List Char) :=
  match fuel with
  | 0 => .error .classUnclosed
  | fuel + 1 =>
    match skip f s with
    | [] => .error .classUnclosed
    | '[' :: r =>
      match asciiClass? r with
      | some (negated, set, rest) => do
        let set ← Class.negateIf f negated (Class.foldCase f set)
        bracketBody fuel f (b.add set) rest
      | none => do
        let (set, rest) ← bracket fuel f r
        bracketBody fuel f (b.add set) rest
    | ']' :: r => .ok (b.value f, r)
    | '&' :: '&' :: r => bracketBody fuel f (b.operator f .inter) r
    | '-' :: '-' :: r => bracketBody fuel f (b.operator f .diff) r
    | '~' :: '~' :: r => bracketBody fuel f (b.operator f .symmDiff) r
    | r => do
      let (set, rest) ← bracketItem f r
      bracketBody fuel f (b.add set) rest

end

/-- The characters that a point stands for. -/
def dot (f : Flags) : Except Fault CharSet :=
  if !f.unicode then .error .notText
  else if f.dotAll then .ok CharSet.all
  else if f.crlf then .ok (CharSet.complement ⟨[(10, 10), (13, 13)]⟩)
  else .ok (CharSet.complement ⟨[(10, 10)]⟩)

def atomPattern (f : Flags) : Atom → Except Fault Pattern
  | .char c byte => do
    let n ← rangeEnd f (.char c byte)
    .ok (.char (Class.foldCase f ⟨[(n, n)]⟩))
  | .set s => .ok (.char s)
  | .look l => .ok (.look l)

/-- A single item that is neither a group, a class nor an operator. -/
def primitive (f : Flags) : List Char → Except Fault (Pattern × List Char)
  | [] => .ok (.empty, [])
  | '\\' :: r => do
    let (a, rest) ← escape f r
    .ok (← atomPattern f a, rest)
  | '.' :: r => do .ok (.char (← dot f), r)
  | '^' :: r => .ok (.look (if f.multiline then .startLine f.crlf else .startText), r)
  | '$' :: r => .ok (.look (if f.multiline then .endLine f.crlf else .endText), r)
  | c :: r => do .ok (← atomPattern f (.char c false), r)

/-- What a sequence is made of: patterns with the depth of their nesting, and settings of
    flags. -/
inductive Item
  | flags
  | node (p : Pattern) (depth : Nat)

def Item.depth : Item → Nat
  | .flags => 0
  | .node _ d => d

/-- The sequence of items, which come last first. -/
def sequence (items : List Item) : Pattern × Nat :=
  let patterns := items.reverse.filterMap fun
    | .node p _ => some p
    | .flags => none
  let deepest := items.foldl (fun d i => max d i.depth) 0
  (Pattern.concat patterns, if items.length ≥ 2 then deepest + 1 else deepest)

/-- The alternatives of a group, which come last first. -/
def alternatives (branches : List (Pattern × Nat)) : Pattern × Nat :=
  let deepest := branches.foldl (fun d b => max d b.2) 0
  (Pattern.union (branches.reverse.map (·.1)),
    if branches.length ≥ 2 then deepest + 1 else deepest)

/-- Whether every match is empty. -/
def zeroWidth : Pattern → Bool
  | .empty => true
  | .char _ => false
  | .look _ => true
  | .seq a b => zeroWidth a && zeroWidth b
  | .alt a b => zeroWidth a && zeroWidth b
  | .rep p _ most _ => most == some 0 || zeroWidth p
  | .group _ p => zeroWidth p

/-- A repetition; none or one time is no repetition, and what is always empty repeats once. -/
def repeated (p : Pattern) (least : Nat) (most : Option Nat) (greedy : Bool) : Pattern :=
  if most = some 0 then .empty
  else if least = 1 ∧ most = some 1 then p
  else if zeroWidth p then .rep p (min least 1) (some 1) greedy
  else .rep p least most greedy

/-- Whether a repetition is greedy, by what follows its operator. -/
def greed (f : Flags) : List Char → Bool × List Char
  | '?' :: r => (f.lazy, r)
  | r => (!f.lazy, r)

def repeatLast (f : Flags) (items : List Item) (least : Nat) (most : Option Nat)
    (s : List Char) : Except Fault (List Item × List Char) :=
  let (greedy, rest) := greed f s
  match items with
  | .node p d :: before =>
    if p = .empty ∧ d = 0 then .error .repetitionMissing
    else .ok (.node (repeated p least most greedy) (d + 1) :: before, rest)
  | _ => .error .repetitionMissing

def maxCount : Nat := Nat.pow 2 32 - 1

/-- A count of a repetition with the blanks around it. -/
def count (s : List Char) : Except Fault (Option Nat × List Char) :=
  let s := s.dropWhile Text.isBlank
  let digits := s.takeWhile Char.isDigit
  let rest := (s.dropWhile Char.isDigit).dropWhile Text.isBlank
  if digits.isEmpty then .ok (none, rest)
  else
    let n := digits.foldl (fun n c => min (n * 10 + (c.toNat - 48)) (Nat.pow 2 32)) 0
    if n ≤ maxCount then .ok (some n, rest) else .error .repetitionCount

/-- The greatest count of a repetition, after the comma; there need not be one. -/
def lastCount (f : Flags) (least : Nat) (s : List Char) : Except Fault (Option Nat × List Char) :=
  match skip f s with
  | '\x7d' :: rest => .ok (none, rest)
  | r => do
    let (last, r') ← count r
    match last, r' with
    | some m, '\x7d' :: rest => if least ≤ m then .ok (some m, rest) else .error .repetitionCount
    | _, _ => .error .repetitionCount

/-- The counts of a repetition after its opening brace. -/
def counts (f : Flags) (s : List Char) : Except Fault (Nat × Option Nat × List Char) := do
  let (first, r) ← count (skip f s)
  match first, r with
  | some n, '\x7d' :: rest => .ok (n, some n, rest)
  | some n, ',' :: r' => do
    let (most, rest) ← lastCount f n r'
    .ok (n, most, rest)
  | _, _ => .error .repetitionCount

def isAlphabetic (c : Char) : Bool :=
  if c.toNat < 128 then c.isAlpha
  else (Text.Property.charSet Text.Property.alphabetic).contains c

def isNumeric (c : Char) : Bool :=
  if c.toNat < 128 then c.isDigit
  else (Text.Category.charSet ["Nd", "Nl", "No"]).contains c

/-- Whether a character may stand in the name of a group. -/
def inName (first : Bool) (c : Char) : Bool :=
  c = '_' || isAlphabetic c ||
    (!first && (c = '.' || c = '[' || c = ']' || isNumeric c))

def validName : List Char → Bool
  | [] => false
  | c :: r => inName true c && r.all (inName false)

/-- The name of a group after its opening angle bracket. -/
def groupName (names : Names) (s : List Char) : Except Fault (String × List Char) :=
  let name := s.takeWhile (· ≠ '>')
  match s.dropWhile (· ≠ '>') with
  | [] => .error .groupName
  | _ :: rest =>
    let text := String.ofList name
    if !validName name then .error .groupName
    else if names.contains (some text) then .error (.groupNameTwice text)
    else .ok (text, rest)

def setFlag (f : Flags) (on : Bool) : Char → Option Flags
  | 'i' => some { f with insensitive := on }
  | 'm' => some { f with multiline := on }
  | 's' => some { f with dotAll := on }
  | 'U' => some { f with lazy := on }
  | 'u' => some { f with unicode := on }
  | 'R' => some { f with crlf := on }
  | 'x' => some { f with verbose := on }
  | _ => none

/-- Flags up to a colon or a closing parenthesis, which the rest begins with. -/
def flagList (f : Flags) (on : Bool) (seen : List Char) :
    List Char → Except Fault (Flags × Bool × List Char)
  | [] => .error .flags
  | c :: r =>
    if c = ':' ∨ c = ')' then
      if seen.head? = some '-' then .error .flags else .ok (f, seen.isEmpty, c :: r)
    else if c = '-' then
      if on then flagList f false ('-' :: seen) r else .error .flags
    else if seen.contains c then .error .flags
    else
      match setFlag f on c with
      | some f' => flagList f' on (c :: seen) r
      | none => .error .flags

/-- What the opening of a group announces. -/
inductive Opening
  | group (name : Option String)
  | plain (f : Flags)
  | set (f : Flags)

/-- What flags announce, by what stands behind them. -/
def flagsOpening (f : Flags) (unset : Bool) : List Char → Except Fault (Opening × List Char)
  | ')' :: rest => if unset then .error .repetitionMissing else .ok (.set f, rest)
  | _ :: rest => .ok (.plain f, rest)
  | [] => .error .flags

/-- The opening of a group after its parenthesis. -/
def opening (f : Flags) (names : Names) (s : List Char) :
    Except Fault (Opening × List Char) :=
  match skip f s with
  | '?' :: '=' :: _ => .error .lookAround
  | '?' :: '!' :: _ => .error .lookAround
  | '?' :: '<' :: '=' :: _ => .error .lookAround
  | '?' :: '<' :: '!' :: _ => .error .lookAround
  | '?' :: 'P' :: '<' :: r => do
    let (name, rest) ← groupName names r
    .ok (.group (some name), rest)
  | '?' :: '<' :: r => do
    let (name, rest) ← groupName names r
    .ok (.group (some name), rest)
  | '?' :: [] => .error .groupUnclosed
  | '?' :: r => do
    let (f', unset, rest) ← flagList f true [] r
    flagsOpening f' unset rest
  | r => .ok (.group none, r)

/-- A pattern that has been read, its depth, the groups seen, and the text behind it. -/
structure Parsed where
  pattern : Pattern
  depth : Nat
  names : Names
  rest : List Char

/-- Reads alternatives and items up to a closing parenthesis or the end of the text. -/
def body (fuel : Nat) (f : Flags) (names : Names) (branches : List (Pattern × Nat))
    (items : List Item) (s : List Char) : Except Fault Parsed :=
  match fuel with
  | 0 => .error .tooDeep
  | fuel + 1 =>
    match skip f s with
    | [] =>
      let (p, d) := alternatives (sequence items :: branches)
      .ok ⟨p, d, names, []⟩
    | ')' :: r =>
      let (p, d) := alternatives (sequence items :: branches)
      .ok ⟨p, d, names, ')' :: r⟩
    | '|' :: r => body fuel f names (sequence items :: branches) [] r
    | '(' :: r => do
      let (o, r') ← opening f names r
      match o with
      | .set f' => body fuel f' names branches (.flags :: items) r'
      | .plain f' => do
        let inner ← body fuel f' names [] [] r'
        match inner.rest with
        | ')' :: rest =>
          body fuel f inner.names branches (.node inner.pattern (inner.depth + 1) :: items) rest
        | _ => .error .groupUnclosed
      | .group name => do
        let index := names.length + 1
        let inner ← body fuel f (name :: names) [] [] r'
        match inner.rest with
        | ')' :: rest =>
          body fuel f inner.names branches
            (.node (.group index inner.pattern) (inner.depth + 1) :: items) rest
        | _ => .error .groupUnclosed
    | '[' :: r => do
      let (set, rest) ← bracket (r.length + 1) f r
      body fuel f names branches (.node (.char set) 1 :: items) rest
    | '?' :: r => do
      let (items, rest) ← repeatLast f items 0 (some 1) r
      body fuel f names branches items rest
    | '*' :: r => do
      let (items, rest) ← repeatLast f items 0 none r
      body fuel f names branches items rest
    | '+' :: r => do
      let (items, rest) ← repeatLast f items 1 none r
      body fuel f names branches items rest
    | '\x7b' :: r => do
      if items.isEmpty then .error .repetitionMissing
      else
        let (least, most, r') ← counts f r
        let (items, rest) ← repeatLast f items least most r'
        body fuel f names branches items rest
    | r => do
      let (p, rest) ← primitive f r
      body fuel f names branches (.node p 0 :: items) rest

end Reader

/-- How deep a pattern may nest. -/
def maxNesting : Nat := 250

/-- Reads a regular expression: its pattern and the names of its groups in order. -/
def Pattern.parse (s : List Char) : Except Fault (Pattern × List (Option String)) := do
  let parsed ← Reader.body (s.length + 1) Flags.initial [] [] [] s
  match parsed.rest with
  | [] =>
    if parsed.depth > maxNesting then .error .tooDeep
    else if parsed.pattern.weight > maxWeight then .error .tooLarge
    else .ok (parsed.pattern, parsed.names.reverse)
  | _ => .error .groupUnopened

end Harvest.Regex
