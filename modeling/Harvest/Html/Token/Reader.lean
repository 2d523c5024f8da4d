import Harvest.Html.Token
import Harvest.Html.Reference
/-!
Reading tokens. Each step takes at least one character of the text and gives the tokens found
there. Nothing is refused: malformed markup is read as the nearest well-formed token, and a tag
that the text ends inside of is dropped.
-/

namespace Harvest.Html.Token.Reader

/-- Carriage returns, alone or before a line feed, become line feeds. -/
def newlines : List Char → List Char
  | [] => []
  | '\r' :: '\n' :: r => '\n' :: newlines r
  | '\r' :: r => '\n' :: newlines r
  | c :: r => c :: newlines r

/-- The text as it is read: without a byte order mark in front. -/
def source (s : String) : List Char :=
  match s.toList with
  | c :: r => newlines (if c.toNat = 0xFEFF then r else c :: r)
  | [] => []

def replacement : Char := '\uFFFD'

def shown (c : Char) : Char := if c.toNat = 0 then replacement else c

/-! References -/

/-- The characters that the numbers from 0x80 to 0x9F stand for. -/
def controlCodes : List Nat :=
  [0x20AC, 0x81, 0x201A, 0x0192, 0x201E, 0x2026, 0x2020, 0x2021, 0x02C6, 0x2030, 0x0160, 0x2039,
   0x0152, 0x8D, 0x017D, 0x8F, 0x90, 0x2018, 0x2019, 0x201C, 0x201D, 0x2022, 0x2013, 0x2014,
   0x02DC, 0x2122, 0x0161, 0x203A, 0x0153, 0x9D, 0x017E, 0x0178]

def numbered (n : Nat) : Char :=
  if n = 0 ∨ 0x10FFFF < n ∨ (0xD800 ≤ n ∧ n ≤ 0xDFFF) then replacement
  else if 0x80 ≤ n ∧ n ≤ 0x9F then Char.ofNat (controlCodes.getD (n - 0x80) n)
  else Char.ofNat n

def isHexDigit (c : Char) : Bool :=
  c.isDigit || ('a' ≤ c && c ≤ 'f') || ('A' ≤ c && c ≤ 'F')

def digitValue (c : Char) : Nat :=
  if c.isDigit then c.toNat - 48 else c.toLower.toNat - 87

/-- A number in some base, kept below a bound that every larger one is equal to. -/
def number (base : Nat) (digits : List Char) : Nat :=
  digits.foldl (fun n c => min (n * base + digitValue c) 0x110000) 0

def dropSemicolon : List Char → List Char
  | ';' :: r => r
  | r => r

/-- The text of a numeric reference behind its number sign. -/
def numeric (s : List Char) : Option (List Char × List Char) :=
  let read (base : Nat) (isDigit : Char → Bool) (s : List Char) : Option (List Char × List Char) :=
    let digits := s.takeWhile isDigit
    if digits.isEmpty then none
    else some ([numbered (number base digits)], dropSemicolon (s.dropWhile isDigit))
  match s with
  | c :: r => if c = 'x' ∨ c = 'X' then read 16 isHexDigit r else read 10 Char.isDigit s
  | [] => none

/-- The text of a reference behind its ampersand, which stands for itself if it starts none. -/
def reference (inValue : Bool) (s : List Char) : List Char × List Char :=
  match s with
  | '#' :: r => (numeric r).getD (['&'], s)
  | _ =>
    match Reference.longest? s (min 32 s.length) with
    | none => (['&'], s)
    | some (n, text) =>
      let rest := s.drop n
      let ended := (s.drop (n - 1)).head? = some ';'
      let continues :=
        match rest with
        | c :: _ => c = '=' || c.isAlphanum
        | [] => false
      if inValue && !ended && continues then (['&'], s) else (text.toList, rest)

/-! Tags -/

def inTagName (c : Char) : Bool :=
  !isBlank c && c ≠ '/' && c ≠ '>'

def lowerName (s : List Char) : String :=
  String.ofList (s.map fun c => shown c.toLower)

/-- The value up to a character that ends it, with its references read. -/
def valueText (stop : Char → Bool) : Nat → List Char → List Char × List Char
  | 0, s => ([], s)
  | _, [] => ([], [])
  | fuel + 1, c :: r =>
    if stop c then ([], c :: r)
    else
      let (text, rest) := if c = '&' then reference true r else ([shown c], r)
      let (more, rest) := valueText stop fuel rest
      (text ++ more, rest)

def isQuote (c : Char) : Bool := c.toNat = 34 || c.toNat = 39

/-- The value behind an equals sign; none if the text ends inside. -/
def value (s : List Char) : Option (List Char × List Char) :=
  match s.dropWhile isBlank with
  | [] => none
  | '>' :: r => some ([], '>' :: r)
  | c :: r =>
    if isQuote c then
      match valueText (· = c) (r.length + 1) r with
      | (v, _ :: rest) => some (v, rest)
      | (_, []) => none
    else
      some (valueText (fun d => isBlank d || d = '>') (r.length + 2) (c :: r))

/-- The first of several attributes with one name. -/
def addAttribute (a : Attribute) (found : List Attribute) : List Attribute :=
  if found.any (·.name = a.name) then found else found ++ [a]

/-- The attributes of a tag, whether it closes itself, and the text behind it; none if the text
    ends inside the tag. -/
def attributes : Nat → List Attribute → List Char → Option (List Attribute × Bool × List Char)
  | 0, _, _ => none
  | fuel + 1, found, s =>
    match s.dropWhile isBlank with
    | [] => none
    | '>' :: r => some (found, false, r)
    | '/' :: '>' :: r => some (found, true, r)
    | '/' :: r => attributes fuel found r
    | c :: r =>
      let inName (d : Char) : Bool := inTagName d && d ≠ '='
      let name := lowerName (c :: r.takeWhile inName)
      let rest := (r.dropWhile inName).dropWhile isBlank
      match rest with
      | '=' :: afterSign =>
        match value afterSign with
        | some (v, rest) =>
          attributes fuel (addAttribute ⟨name, String.ofList v, false⟩ found) rest
        | none => none
      | _ => attributes fuel (addAttribute ⟨name, "", false⟩ found) rest

/-- A tag from its name on. -/
def tag (closes : Bool) (s : List Char) : List Token × List Char :=
  let name := lowerName (s.takeWhile inTagName)
  match attributes (s.length + 1) [] (s.dropWhile inTagName) with
  | none => ([], [])
  | some (found, selfClosing, rest) =>
    (if closes then [.closing name] else [.opening name found selfClosing], rest)

/-! Comments and declarations -/

/-- The text before the earliest of two marks, and the text behind it. -/
def until? (marks : List (List Char)) : List Char → List Char × List Char
  | [] => ([], [])
  | c :: r =>
    match marks.find? fun m => m.isPrefixOf (c :: r) with
    | some m => ([], (c :: r).drop m.length)
    | none =>
      let (text, rest) := until? marks r
      (c :: text, rest)

def bogusComment (s : List Char) : List Token × List Char :=
  let (text, rest) := until? [['>']] s
  ([.comment (String.ofList (text.map shown))], rest)

/-- A comment behind its two hyphens. -/
def comment (s : List Char) : List Token × List Char :=
  match s with
  | '>' :: r => ([.comment ""], r)
  | '-' :: '>' :: r => ([.comment ""], r)
  | _ =>
    let (text, rest) := until? [['-', '-', '>'], ['-', '-', '!', '>']] s
    ([.comment (String.ofList (text.map shown))], rest)

/-- A quoted identifier, if it is complete. -/
def identifier (s : List Char) : Option (String × List Char) :=
  match s.dropWhile isBlank with
  | c :: r =>
    if isQuote c then
      match r.span fun d => d ≠ c && d ≠ '>' with
      | (text, d :: rest) =>
        if d = c then some (String.ofList (text.map shown), rest) else none
      | (_, []) => none
    else none
  | [] => none

def dropDeclaration (s : List Char) : List Char :=
  (until? [['>']] s).2

def startsWithIgnoringCase (word : String) (s : List Char) : Bool :=
  (s.take word.length).map Char.toLower == word.toList

/-- What stands behind the name of a document type. -/
def externalIds (d : Doctype) (s : List Char) : Doctype :=
  let s := s.dropWhile isBlank
  let isEnd (r : List Char) : Bool := (r.dropWhile isBlank).isEmpty
  if s.isEmpty then d
  else if startsWithIgnoringCase "public" s then
    match identifier (s.drop 6) with
    | none => { d with broken := true }
    | some (publicId, rest) =>
      let d := { d with publicId := some publicId }
      if isEnd rest then d
      else
        match identifier rest with
        | some (systemId, _) => { d with systemId := some systemId }
        | none => { d with broken := true }
  else if startsWithIgnoringCase "system" s then
    match identifier (s.drop 6) with
    | some (systemId, _) => { d with systemId := some systemId }
    | none => { d with broken := true }
  else { d with broken := true }

/-- A document type behind its keyword. -/
def doctype (s : List Char) : List Token × List Char :=
  let body := s.takeWhile (· ≠ '>')
  let complete := body.length < s.length
  let inner := body.dropWhile isBlank
  let name := inner.takeWhile fun c => !isBlank c
  let d : Doctype := { name := lowerName name, broken := name.isEmpty || !complete }
  let d := externalIds d (inner.drop name.length)
  ([.doctype d], dropDeclaration s)

def sectionMark : List Char := "[CDATA[".toList

/-- Markup behind `<!`. Sections of character data exist outside the HTML vocabulary only. -/
def declaration (foreign : Bool) (s : List Char) : List Token × List Char :=
  match s with
  | '-' :: '-' :: r => comment r
  | _ =>
    if startsWithIgnoringCase "doctype" s then doctype (s.drop 7)
    else if foreign && sectionMark.isPrefixOf s then
      let (text, rest) := until? [[']', ']', '>']] (s.drop 7)
      (ofText text, rest)
    else bogusComment s

/-- Markup behind `<`. -/
def markup (foreign : Bool) (s : List Char) : List Token × List Char :=
  match s with
  | '!' :: r => declaration foreign r
  | '?' :: _ => bogusComment s
  | '/' :: r =>
    match r with
    | [] => (ofText ['<', '/'], [])
    | '>' :: rest => ([], rest)
    | c :: _ => if c.isAlpha then tag true r else bogusComment r
  | c :: _ => if c.isAlpha then tag false s else (ofText ['<'], s)
  | [] => (ofText ['<'], [])

/-! Text -/

/-- Whether the closing tag of an element stands here, behind its `</`. -/
def closes (name : String) (s : List Char) : Bool :=
  startsWithIgnoringCase name s &&
    (match s.drop name.length with
    | c :: _ => !inTagName c
    | [] => false)

/-- Text up to the closing tag of the element that it fills. -/
def fill (references : Bool) (name : String) : Nat → List Char → List Char × List Char
  | 0, s => ([], s)
  | _, [] => ([], [])
  | fuel + 1, c :: r =>
    let stop :=
      match c, r with
      | '<', '/' :: t => closes name t
      | _, _ => false
    if stop then ([], c :: r)
    else
      let (text, rest) := if c = '&' && references then reference false r else ([shown c], r)
      let (more, rest) := fill references name fuel rest
      (text ++ more, rest)

/-- Where a script's text stands: a comment in it may hold a nested pair of tags. Hyphens are
    counted up to two. -/
inductive Script
  | code
  | comment (hyphens : Nat)
  | nested (hyphens : Nat)

/-- Whether a word `script` with its end stands here. -/
def namesScript (s : List Char) : Bool :=
  (s.takeWhile Char.isAlpha).map Char.toLower == "script".toList &&
    (match s.dropWhile Char.isAlpha with
    | c :: _ => !inTagName c
    | [] => false)

/-- The state behind one character of a script. -/
def Script.next (c : Char) (r : List Char) : Script → Script
  | .code => if c = '<' && "!--".toList.isPrefixOf r then .comment 0 else .code
  | .comment n =>
    if c = '-' then .comment (min 2 (n + 1))
    else if c = '>' && n = 2 then .code
    else if c = '<' && namesScript r then .nested 0
    else .comment 0
  | .nested n =>
    if c = '-' then .nested (min 2 (n + 1))
    else if c = '>' && n = 2 then .code
    else if c = '<' && r.head? = some '/' && namesScript r.tail then .comment 0
    else .nested 0

def Script.isNested : Script → Bool
  | .nested _ => true
  | _ => false

/-- The text of a script up to its closing tag. -/
def scriptText : Script → List Char → List Char × List Char
  | _, [] => ([], [])
  | place, c :: r =>
    let stop :=
      match c, r with
      | '<', '/' :: t => !place.isNested && closes "script" t
      | _, _ => false
    if stop then ([], c :: r)
    else
      let (text, rest) := scriptText (place.next c r) r
      (shown c :: text, rest)

/-- The tokens of text that runs up to a closing tag, and that tag. -/
def filled (text rest : List Char) : List Token × List Char :=
  if text.isEmpty && !rest.isEmpty then
    tag true (rest.drop 2)
  else (ofText text, rest)

/-- The next tokens of a text that is not at its end. -/
def step (mode : Mode) (foreign : Bool) (s : List Char) : List Token × List Char :=
  match mode with
  | .plain => (ofText (s.map shown), [])
  | .escapable name =>
    let (text, rest) := fill true name (s.length + 1) s
    filled text rest
  | .raw name =>
    let (text, rest) := fill false name (s.length + 1) s
    filled text rest
  | .script =>
    let (text, rest) := scriptText .code s
    filled text rest
  | .markup =>
    match s with
    | '<' :: r => markup foreign r
    | '&' :: r =>
      let (text, rest) := reference false r
      (ofText text, rest)
    | _ =>
      let isText (c : Char) : Bool := c ≠ '<' && c ≠ '&'
      (ofText (s.takeWhile isText), s.dropWhile isText)

end Harvest.Html.Token.Reader
