import Harvest.Css.Selector
import Harvest.Css.Token
import Harvest.Text.Blank
/-!
Reading selectors. A text that is not a selector gives none. Inside `:is` and `:where` a wrong
alternative is one that nothing matches; everywhere else it spoils the whole.
-/

namespace Harvest.Css.Reader

def skipBlank : List Token → List Token
  | .blank :: r => skipBlank r
  | r => r

def isBlankOnly (ts : List Token) : Bool := (skipBlank ts).isEmpty

/-- The parts between the commas. -/
def splitCommas : List Token → List (List Token)
  | [] => [[]]
  | .comma :: r => [] :: splitCommas r
  | t :: r =>
    match splitCommas r with
    | [] => [[t]]
    | p :: ps => (t :: p) :: ps

mutual

/-- Whether a token or one inside of it can stand nowhere. -/
def isBroken : Token → Bool
  | .badString => true
  | .badUrl => true
  | .stray _ => true
  | .bracket _ inner => anyBroken inner
  | .function _ inner => anyBroken inner
  | _ => false

def anyBroken : List Token → Bool
  | [] => false
  | t :: r => isBroken t || anyBroken r

end

/-! Counts -/

def digitsBehind (s : List Char) : Option Int :=
  match s with
  | 'n' :: '-' :: r =>
    if r.isEmpty || !r.all Char.isDigit then none
    else
      let n : Int := (r.foldl (fun n d => n * 10 + (d.toNat - 48)) 0 : Nat)
      some (Token.saturate (-n))
  | _ => none

/-- An offset without a sign of its own, the sign having been read. -/
def unsignedOffset (sign : Int) (ts : List Token) : Option Int :=
  match skipBlank ts with
  | .number ⟨some n, false⟩ :: r => if isBlankOnly r then some (sign * n) else none
  | _ => none

def offset (ts : List Token) : Option Int :=
  match skipBlank ts with
  | .delim '+' :: r => unsignedOffset 1 r
  | .delim '-' :: r => unsignedOffset (-1) r
  | .number ⟨some n, true⟩ :: r => if isBlankOnly r then some n else none
  | [] => some 0
  | _ => none

/-- A step whose letter is written in a word, with what the word and the rest say of the offset. -/
def stepped (step : Int) (word : List Char) (rest : List Token) : Option (Int × Int) :=
  if word = ['n'] then (offset rest).map fun b => (step, b)
  else if word = ['n', '-'] then (unsignedOffset (-1) rest).map fun b => (step, b)
  else
    match digitsBehind word with
    | some b => if isBlankOnly rest then some (step, b) else none
    | none => none

/-- Step and offset of a count such as `2n+1`, `odd` or `-n + 3`. -/
def count (ts : List Token) : Option (Int × Int) :=
  match skipBlank ts with
  | .number ⟨some b, _⟩ :: r => if isBlankOnly r then some (0, b) else none
  | .dimension ⟨some a, _⟩ unit :: r => stepped a (unit.toList.map Char.toLower) r
  | .ident word :: r =>
    let w := word.toList.map Char.toLower
    if w = "even".toList then if isBlankOnly r then some (2, 0) else none
    else if w = "odd".toList then if isBlankOnly r then some (2, 1) else none
    else
      match w with
      | '-' :: w' => stepped (-1) w' r
      | _ => stepped 1 w r
  | .delim '+' :: .ident word :: r => stepped 1 (word.toList.map Char.toLower) r
  | _ => none

/-! Names -/

/-- What stands in front of the bar of a name. -/
inductive Space
  | unwritten
  | none
  | any

/-- A name with its space; the name is missing for a star. -/
inductive Named
  | absent
  | named (space : Space) (name : Option String) (rest : List Token)

def behindBar (inAttribute : Bool) (space : Space) (ts : List Token) : Option Named :=
  match ts with
  | .delim '*' :: r => if inAttribute then none else some (.named space none r)
  | .ident n :: r => some (.named space (some n) r)
  | _ => none

/-- A name that may stand behind a space and a bar. No prefix of a space is known. -/
def named (inAttribute : Bool) (ts : List Token) : Option Named :=
  match ts with
  | .ident _ :: .delim '|' :: _ => none
  | .ident n :: r => some (.named .unwritten (some n) r)
  | .delim '*' :: .delim '|' :: r => behindBar inAttribute .any r
  | .delim '*' :: r => if inAttribute then none else some (.named .unwritten none r)
  | .delim '|' :: r => behindBar inAttribute .none r
  | _ => some .absent

/-! Attributes -/

/-- Attributes of HTML whose values are compared without regard to letter case. -/
def caselessAttributes : List String :=
  ["accept", "accept-charset", "align", "alink", "axis", "bgcolor", "charset", "checked", "clear",
   "codetype", "color", "compact", "declare", "defer", "dir", "direction", "disabled", "enctype",
   "face", "frame", "hreflang", "http-equiv", "lang", "language", "link", "media", "method",
   "multiple", "nohref", "noresize", "noshade", "nowrap", "readonly", "rel", "rev", "rules",
   "scope", "scrolling", "selected", "shape", "target", "text", "type", "valign", "valuetype",
   "vlink"]

def letters (written : Bool) (name : String) (ts : List Token) : Option LetterCase :=
  match skipBlank ts with
  | [] =>
    some (if !written && caselessAttributes.contains (Text.lowered name) then .ignoredInHtml
      else .exact)
  | .ident flag :: r =>
    if !isBlankOnly r then none
    else
      match Text.lowered flag with
      | "i" => some .ignored
      | "s" => some .exact
      | _ => none
  | _ => none

def comparison? : Token → Option Comparison
  | .delim '=' => some .equal
  | .wordMatch => some .word
  | .dashMatch => some .dash
  | .startMatch => some .start
  | .stopMatch => some .stop
  | .partMatch => some .part
  | _ => none

def compared (written : Bool) (space : NameSpace) (name : String) (c : Comparison)
    (ts : List Token) : Option Simple :=
  let read (value : String) (r : List Token) : Option Simple :=
    (letters written name r).map fun l => .compare space name c value l
  match skipBlank ts with
  | .ident v :: r => read v r
  | .string v :: r => read v r
  | _ => none

/-- The condition inside square brackets. -/
def inBrackets (ts : List Token) : Option Simple :=
  match named true (skipBlank ts) with
  | some (.named space (some name) r) =>
    let (written, space) : Bool × NameSpace :=
      match space with
      | .any => (true, .any)
      | _ => (false, .none)
    match skipBlank r with
    | [] => some (.attribute space name)
    | t :: r' =>
      match comparison? t with
      | some c => compared written space name c r'
      | none => none
  | _ => none

/-! Compounds -/

/-- The type at the start of a compound, with whether there was one. -/
def type (ts : List Token) : Option (Bool × List Simple × List Token) :=
  match named false ts with
  | none => none
  | some .absent => some (false, [], ts)
  | some (.named space name r) =>
    let space : List Simple :=
      match space with
      | .none => [.unnamed]
      | _ => []
    some (true, space ++ [(name.map Simple.type).getD .universal], r)

def counted (sameType fromEnd : Bool) (step offset : Int) : Simple :=
  .nth ⟨step, offset, sameType, fromEnd⟩

def plainClass (name : String) : Option Simple :=
  match Text.lowered name with
  | "first-child" => some (counted false false 0 1)
  | "last-child" => some (counted false true 0 1)
  | "only-child" => some (.only false)
  | "first-of-type" => some (counted true false 0 1)
  | "last-of-type" => some (counted true true 0 1)
  | "only-of-type" => some (.only true)
  | "root" => some .root
  | "empty" => some .empty
  | "scope" => some .scope
  | _ => none

/-- The combinator behind a compound; none if the compound is the last one. -/
def combinator (blank : Bool) : List Token → Option (Combinator × List Token)
  | .blank :: r => combinator true r
  | .delim '>' :: r => some (.child, r)
  | .delim '+' :: r => some (.nextSibling, r)
  | .delim '~' :: r => some (.laterSibling, r)
  | [] => none
  | t :: r => if blank then some (.descendant, t :: r) else none

/-- Where a list of alternatives stands. -/
inductive Setting
  | plain
  /-- Wrong alternatives match nothing. -/
  | forgiving
  /-- The alternatives start with a combinator. -/
  | relative
  deriving DecidableEq

mutual

/-- A functional pseudo-class. `nested` says that `:has` may not be used again. -/
def functional (nested : Bool) : Nat → String → List Token → Option Simple
  | 0, _, _ => none
  | fuel + 1, name, inner =>
    let nth (sameType fromEnd : Bool) : Option Simple :=
      (count inner).map fun (a, b) => counted sameType fromEnd a b
    match Text.lowered name with
    | "nth-child" => nth false false
    | "nth-last-child" => nth false true
    | "nth-of-type" => nth true false
    | "nth-last-of-type" => nth true true
    | "is" => (choices nested .forgiving fuel inner).map .is
    | "where" => (choices nested .forgiving fuel inner).map .is
    | "not" => (choices nested .plain fuel inner).map .isNot
    | "has" => if nested then none else (choices true .relative fuel inner).map .has
    | _ => none

/-- One simple selector; the outer answer is none for an error, the inner one for the end. -/
def simple (nested : Bool) : Nat → List Token → Option (Option (Simple × List Token))
  | 0, _ => none
  | fuel + 1, ts =>
    match ts with
    | .hash v true :: r => some (some (.id v, r))
    | .delim '.' :: r =>
      match r with
      | .ident c :: r' => some (some (.ofClass c, r'))
      | _ => none
    | .bracket .square inner :: r => (inBrackets inner).map fun a => some (a, r)
    | .colon :: r =>
      match r with
      | .ident n :: r' => (plainClass n).map fun c => some (c, r')
      | .function n inner :: r' => (functional nested fuel n inner).map fun c => some (c, r')
      | _ => none
    | _ => some none

def simples (nested : Bool) : Nat → List Token → Option (List Simple × List Token)
  | 0, _ => none
  | fuel + 1, ts =>
    match simple nested fuel ts with
    | none => none
    | some none => some ([], ts)
    | some (some (s, r)) => (simples nested fuel r).map fun (more, rest) => (s :: more, rest)

/-- A compound, which must not be empty. -/
def compound (nested : Bool) : Nat → List Token → Option (List Simple × List Token)
  | 0, _ => none
  | fuel + 1, ts =>
    match type (skipBlank ts) with
    | none => none
    | some (typed, first, r) =>
      match simples nested fuel r with
      | none => none
      | some (more, rest) =>
        if !typed && more.isEmpty then none else some (first ++ more, rest)

/-- The compounds that follow one already read. -/
def linked (nested : Bool) : Nat → Complex → List Token → Option Complex
  | 0, _, _ => none
  | fuel + 1, left, ts =>
    match combinator false ts with
    | none => if isBlankOnly ts then some left else none
    | some (c, r) =>
      match compound nested fuel r with
      | none => none
      | some (conditions, rest) => linked nested fuel (.link left c conditions) rest

def complex (nested : Bool) (setting : Setting) : Nat → List Token → Option Complex
  | 0, _ => none
  | fuel + 1, ts =>
    if setting = .relative then
      let (c, r) := (combinator false ts).getD (.descendant, ts)
      match compound nested fuel r with
      | none => none
      | some (conditions, rest) => linked nested fuel (.link (.one [.anchor]) c conditions) rest
    else
      match compound nested fuel ts with
      | none => none
      | some (conditions, rest) => linked nested fuel (.one conditions) rest

def choices (nested : Bool) (setting : Setting) : Nat → List Token → Option (List Complex)
  | 0, _ => none
  | fuel + 1, ts =>
    (splitCommas ts).mapM fun part =>
      match complex nested setting fuel part with
      | some c => some c
      | none => if setting = .forgiving && !anyBroken part then some (.one [.never]) else none

end

end Reader

def Selector.parse? (text : String) : Option Selector :=
  (Reader.choices false .plain (4 * text.length + 8) (Token.all text)).map Selector.mk

end Harvest.Css
