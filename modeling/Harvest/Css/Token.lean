/-!
Tokens of selectors. Brackets and functions hold the tokens up to the closing bracket that
belongs to them; one that is missing at the end of the text is supplied.
-/

namespace Harvest.Css

inductive Bracket
  | round
  | square
  | curly
  deriving DecidableEq, Repr

/-- A number as written: whole or not, with a sign or without. -/
structure Numeral where
  whole : Option Int
  signed : Bool
  deriving DecidableEq, Repr

inductive Token
  | ident (name : String)
  | function (name : String) (arguments : List Token)
  | bracket (kind : Bracket) (inner : List Token)
  /-- A closing bracket that closes nothing. -/
  | stray (kind : Bracket)
  | atWord (name : String)
  | hash (name : String) (isId : Bool)
  | string (value : String)
  | badString
  | url (value : String)
  | badUrl
  | number (n : Numeral)
  | percentage (n : Numeral)
  | dimension (n : Numeral) (unit : String)
  | blank
  | colon
  | semicolon
  | comma
  | wordMatch
  | dashMatch
  | startMatch
  | stopMatch
  | partMatch
  | openComment
  | closeComment
  | delim (c : Char)
  deriving Repr, Inhabited

namespace Token

def isNewline (c : Char) : Bool := c = '\n' || c = '\r' || c.toNat = 12

def isBlank (c : Char) : Bool := c = ' ' || c = '\t' || isNewline c

def isQuote (c : Char) : Bool := c.toNat = 34 || c.toNat = 39

/-- Characters that may start a name, those outside ASCII and the null character among them. -/
def startsName (c : Char) : Bool := c.isAlpha || c = '_' || c.toNat = 0 || 127 < c.toNat

def inName (c : Char) : Bool := startsName c || c.isDigit || c = '-'

/-- A backslash that is not in front of a line break escapes what follows. -/
def isEscape : List Char → Bool
  | '\\' :: c :: _ => !isNewline c
  | ['\\'] => true
  | _ => false

def isIdentStart (s : List Char) : Bool :=
  match s with
  | '-' :: r =>
    match r with
    | c :: _ => startsName c || c = '-' || isEscape r
    | [] => false
  | c :: _ => startsName c || isEscape s
  | [] => false

def isHex (c : Char) : Bool :=
  c.isDigit || ('a' ≤ c && c ≤ 'f') || ('A' ≤ c && c ≤ 'F')

def hexValue (c : Char) : Nat :=
  if c.isDigit then c.toNat - 48 else c.toLower.toNat - 87

def dropBlank : List Char → List Char
  | '\r' :: '\n' :: r => r
  | c :: r => if isBlank c then r else c :: r
  | [] => []

/-- The character of an escape behind its backslash. -/
def escape (s : List Char) : Char × List Char :=
  match s with
  | [] => ('\uFFFD', [])
  | c :: r =>
    if isHex c then
      let digits := (s.take 6).takeWhile isHex
      let n := digits.foldl (fun n d => n * 16 + hexValue d) 0
      let char :=
        if n = 0 ∨ 0x10FFFF < n ∨ (0xD800 ≤ n ∧ n ≤ 0xDFFF) then '\uFFFD' else Char.ofNat n
      (char, dropBlank (s.drop digits.length))
    else (if c.toNat = 0 then '\uFFFD' else c, r)

/-- A name and the text behind it. -/
def name : Nat → List Char → List Char × List Char
  | 0, s => ([], s)
  | _, [] => ([], [])
  | fuel + 1, c :: r =>
    if inName c then
      let (n, rest) := name fuel r
      ((if c.toNat = 0 then '\uFFFD' else c) :: n, rest)
    else if isEscape (c :: r) then
      let (e, rest) := escape r
      let (n, rest) := name fuel rest
      (e :: n, rest)
    else ([], c :: r)

def readName (s : List Char) : String × List Char :=
  let (n, rest) := name (s.length + 1) s
  (String.ofList n, rest)

/-- The value of a string behind its quote; none for one that a line break cuts off. -/
def quoted (quote : Char) : Nat → List Char → Option (List Char) × List Char
  | 0, s => (none, s)
  | _, [] => (some [], [])
  | fuel + 1, c :: r =>
    if c = quote then (some [], r)
    else if isNewline c then (none, c :: r)
    else if c = '\\' then
      match r with
      | [] => (some [], [])
      | '\r' :: '\n' :: r' => quoted quote fuel r'
      | d :: r' =>
        if isNewline d then quoted quote fuel r'
        else
          let (e, rest) := escape r
          let (v, rest) := quoted quote fuel rest
          (v.map (e :: ·), rest)
    else
      let (v, rest) := quoted quote fuel r
      (v.map ((if c.toNat = 0 then '\uFFFD' else c) :: ·), rest)

/-- Skips the rest of an address that is not well formed. -/
def skipUrl : Nat → List Char → List Char
  | 0, s => s
  | _, [] => []
  | fuel + 1, c :: r =>
    if c = ')' then r
    else if c = '\\' then skipUrl fuel r.tail
    else skipUrl fuel r

/-- An address without quotes behind its opening bracket. -/
def urlText : Nat → List Char → Option (List Char) × List Char
  | 0, s => (none, s)
  | _, [] => (some [], [])
  | fuel + 1, c :: r =>
    if c = ')' then (some [], r)
    else if isBlank c then
      match r.dropWhile isBlank with
      | [] => (some [], [])
      | ')' :: rest => (some [], rest)
      | rest => (none, skipUrl (rest.length + 1) rest)
    else if isQuote c || c = '(' || (0 < c.toNat && c.toNat < 0x20) || c.toNat = 0x7F then
      (none, skipUrl (r.length + 1) r)
    else if c = '\\' then
      if isEscape (c :: r) then
        let (e, rest) := escape r
        let (v, rest) := urlText fuel rest
        (v.map (e :: ·), rest)
      else (none, skipUrl (r.length + 1) r)
    else
      let (v, rest) := urlText fuel r
      (v.map ((if c.toNat = 0 then '\uFFFD' else c) :: ·), rest)

def isNumberStart (s : List Char) : Bool :=
  let unsigned :=
    match s with
    | '+' :: r => r
    | '-' :: r => r
    | r => r
  match unsigned with
  | '.' :: c :: _ => c.isDigit
  | c :: _ => c.isDigit
  | [] => false

/-- The largest and the smallest number that is told apart. -/
def saturate (n : Int) : Int := max (-2147483648) (min 2147483647 n)

def numeral (s : List Char) : Numeral × List Char :=
  let (negative, signed, r) :=
    match s with
    | '+' :: r => (false, true, r)
    | '-' :: r => (true, true, r)
    | r => (false, false, r)
  let digits := r.takeWhile Char.isDigit
  let r := r.dropWhile Char.isDigit
  let (fraction, r) :=
    match r with
    | '.' :: c :: _ =>
      if c.isDigit then (true, (r.drop 1).dropWhile Char.isDigit) else (false, r)
    | _ => (false, r)
  let (power, r) :=
    match r with
    | e :: c :: _ =>
      if e = 'e' ∨ e = 'E' then
        let unsigned := if c = '+' ∨ c = '-' then r.drop 2 else r.drop 1
        match unsigned with
        | d :: _ => if d.isDigit then (true, unsigned.dropWhile Char.isDigit) else (false, r)
        | [] => (false, r)
      else (false, r)
    | _ => (false, r)
  let n : Int := (digits.foldl (fun n d => n * 10 + (d.toNat - 48)) 0 : Nat)
  (⟨if fraction || power then none else some (saturate (if negative then -n else n)), signed⟩, r)

/-- One token, where functions and brackets are still without their content. -/
inductive Piece
  | token (t : Token)
  | opening (kind : Bracket)
  | call (name : String)
  | closing (kind : Bracket)
  | nothing

def numeric (s : List Char) : Piece × List Char :=
  let (n, r) := numeral s
  match r with
  | '%' :: r' => (.token (.percentage n), r')
  | _ =>
    if isIdentStart r then
      let (unit, rest) := readName r
      (.token (.dimension n unit), rest)
    else (.token (.number n), r)

/-- Whether an address without quotes stands behind `url(`. -/
def isBareUrl (s : List Char) : Bool :=
  match s.dropWhile isBlank with
  | c :: _ => !isQuote c
  | [] => true

def identLike (s : List Char) : Piece × List Char :=
  let (n, r) := readName s
  match r with
  | '(' :: r' =>
    if n.toList.map Char.toLower == "url".toList && isBareUrl r' then
      let inner := r'.dropWhile isBlank
      match urlText (inner.length + 1) inner with
      | (some v, rest) => (.token (.url (String.ofList v)), rest)
      | (none, rest) => (.token .badUrl, rest)
    else (.call n, r')
  | _ => (.token (.ident n), r)

def comment : List Char → List Char
  | '*' :: '/' :: r => r
  | _ :: r => comment r
  | [] => []

/-- The first piece of a text that is not empty. -/
def piece (c : Char) (r : List Char) : Piece × List Char :=
  let s := c :: r
  let single (t : Token) : Piece × List Char := (.token t, r)
  let matching (t : Token) : Piece × List Char :=
    match r with
    | '=' :: r' => (.token t, r')
    | _ => single (.delim c)
  if isBlank c then (.token .blank, r.dropWhile isBlank)
  else if isQuote c then
    match quoted c (r.length + 1) r with
    | (some v, rest) => (.token (.string (String.ofList v)), rest)
    | (none, rest) => (.token .badString, rest)
  else if isNumberStart s then numeric s
  else
    match c with
    | '#' =>
      let follows :=
        match r with
        | d :: _ => d.isDigit || d = '-'
        | [] => false
      if isIdentStart r || follows then
        let (n, rest) := readName r
        (.token (.hash n (isIdentStart r)), rest)
      else single (.delim '#')
    | '$' => matching .stopMatch
    | '*' => matching .partMatch
    | '^' => matching .startMatch
    | '|' => matching .dashMatch
    | '~' => matching .wordMatch
    | '(' => (.opening .round, r)
    | '[' => (.opening .square, r)
    | '\x7b' => (.opening .curly, r)
    | ')' => (.closing .round, r)
    | ']' => (.closing .square, r)
    | '\x7d' => (.closing .curly, r)
    | ',' => single .comma
    | ':' => single .colon
    | ';' => single .semicolon
    | '-' =>
      if "->".toList.isPrefixOf r then (.token .closeComment, r.drop 2)
      else if isIdentStart s then identLike s
      else single (.delim '-')
    | '/' =>
      match r with
      | '*' :: r' => (.nothing, comment r')
      | _ => single (.delim '/')
    | '<' =>
      if "!--".toList.isPrefixOf r then (.token .openComment, r.drop 3) else single (.delim '<')
    | '@' =>
      if isIdentStart r then
        let (n, rest) := readName r
        (.token (.atWord n), rest)
      else single (.delim '@')
    | _ => if isIdentStart s then identLike s else single (.delim c)

/-- The tokens up to the closing bracket of one kind, or up to the end. -/
def upTo (closing : Option Bracket) : Nat → List Char → List Token × List Char
  | 0, s => ([], s)
  | _, [] => ([], [])
  | fuel + 1, c :: r =>
    match piece c r with
    | (.nothing, rest) => upTo closing fuel rest
    | (.token t, rest) =>
      let (ts, rest) := upTo closing fuel rest
      (t :: ts, rest)
    | (.opening k, rest) =>
      let (inner, rest) := upTo (some k) fuel rest
      let (ts, rest) := upTo closing fuel rest
      (.bracket k inner :: ts, rest)
    | (.call n, rest) =>
      let (inner, rest) := upTo (some .round) fuel rest
      let (ts, rest) := upTo closing fuel rest
      (.function n inner :: ts, rest)
    | (.closing k, rest) =>
      if closing = some k then ([], rest)
      else
        let (ts, rest) := upTo closing fuel rest
        (.stray k :: ts, rest)

/-- The tokens of a text. -/
def all (s : String) : List Token :=
  (upTo none (s.length + 1) s.toList).1

end Token
end Harvest.Css
