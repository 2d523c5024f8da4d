import Harvest.Url.Basic
/-!
Reading URLs. White space around the text is dropped, and tabs and line breaks anywhere in it. A
text without a scheme is read relative to a base.
-/

namespace Harvest.Url

namespace Reader

def isEdge (c : Char) : Bool := c.toNat ≤ 0x20

/-- The text that is read. -/
def cleaned (s : String) : List Char :=
  let body := ((s.toList.dropWhile isEdge).reverse.dropWhile isEdge).reverse
  body.filter fun c => c ≠ '\t' && c ≠ '\n' && c ≠ '\r'

def inScheme (c : Char) : Bool :=
  c.isAlphanum || c = '+' || c = '-' || c = '.'

/-- The scheme before a colon, in lower case. -/
def scheme? (s : List Char) : Option (String × List Char) :=
  match s with
  | c :: _ =>
    if !c.isAlpha then none
    else
      match s.dropWhile inScheme with
      | ':' :: r => some (String.ofList ((s.takeWhile inScheme).map Char.toLower), r)
      | _ => none
  | [] => none

def isSlash (c : Char) : Bool := c = '/' || c = '\\'

/-- Whether a character ends the segment, and whether it ends the path. -/
def endsSegment (special : Bool) (c : Char) : Bool :=
  c = '/' || (special && c = '\\')

def endsPath (c : Char) : Bool := c = '?' || c = '#'

def isSingleDot (s : List Char) : Bool :=
  let s := s.map Char.toLower
  s == ".".toList || s == "%2e".toList

def isDoubleDot (s : List Char) : Bool :=
  let s := s.map Char.toLower
  s == "..".toList || s == ".%2e".toList || s == "%2e.".toList || s == "%2e%2e".toList

def isDriveLetter : List Char → Bool
  | [c, d] => c.isAlpha && (d = ':' || d = '|')
  | _ => false

def isNormalDriveLetter : List Char → Bool
  | [c, d] => c.isAlpha && d = ':'
  | _ => false

/-- Drops the last segment; the drive letter of a file stays. Segments come last first. -/
def shorten (file : Bool) : List String → List String
  | [] => []
  | [s] => if file && isNormalDriveLetter s.toList then [s] else []
  | _ :: r => r

/-- Reads segments up to a query or fragment; segments come last first. -/
def segments (special file : Bool) : Nat → List String → List Char → List String × List Char
  | 0, acc, s => (acc, s)
  | fuel + 1, acc, s =>
    let inSegment (c : Char) : Bool := !endsSegment special c && !endsPath c
    let raw := s.takeWhile inSegment
    let rest := s.dropWhile inSegment
    let encoded := Percent.encode Percent.inPath raw
    let more : Option (List Char) :=
      match rest with
      | c :: r => if endsSegment special c then some r else none
      | [] => none
    let acc :=
      if isDoubleDot encoded then
        let shorter := shorten file acc
        if more.isSome then shorter else "" :: shorter
      else if isSingleDot encoded then
        if more.isSome then acc else "" :: acc
      else if file && acc.isEmpty && isDriveLetter encoded then
        String.ofList (encoded.take 1 ++ [':']) :: acc
      else String.ofList encoded :: acc
    match more with
    | some r => segments special file fuel acc r
    | none => (acc, rest)

/-- Segments of a file have no empty ones in front of others. -/
def dropEmpty : List String → List String
  | "" :: s :: r => dropEmpty (s :: r)
  | parts => parts

/-- A path behind its first slash, starting from segments that come last first. -/
def pathFrom (special file : Bool) (start : List String) (s : List Char) :
    List String × List Char :=
  let (acc, rest) := segments special file (s.length + 1) start s
  let parts := acc.reverse
  (if file then dropEmpty parts else parts, rest)

/-- A path right behind a host. -/
def pathStart (special file : Bool) (s : List Char) : List String × List Char :=
  match s with
  | c :: r =>
    if endsSegment special c then pathFrom special file [] r
    else if special then pathFrom special file [] s
    else if endsPath c then ([], s)
    else pathFrom special file [] s
  | [] => if special then ([""], []) else ([], [])

/-- The query and the fragment at the end of a URL. -/
def tail (special : Bool) (s : List Char) : Option String × Option String :=
  let encodeFragment (f : List Char) := String.ofList (Percent.encode Percent.inFragment f)
  match s with
  | '#' :: f => (none, some (encodeFragment f))
  | '?' :: r =>
    let q := r.takeWhile (· ≠ '#')
    let set := if special then Percent.inSpecialQuery else Percent.inQuery
    let query := String.ofList (Percent.encode set q)
    match r.dropWhile (· ≠ '#') with
    | _ :: f => (some query, some (encodeFragment f))
    | [] => (some query, none)
  | _ => (none, none)

/-- Puts query and fragment to a URL read up to its path. -/
def finish (u : Url) (s : List Char) : Url :=
  let (q, f) := tail (isSpecial u.scheme) s
  { u with query := q, fragment := f }

/-- The part of an authority before its last at-sign, and the text behind it. -/
def splitUserinfo (special : Bool) (s : List Char) : Option (List Char) × List Char :=
  let inAuthority (c : Char) : Bool := !endsSegment special c && !endsPath c
  let authority := s.takeWhile inAuthority
  match authority.reverse.dropWhile (· ≠ '@') with
  | [] => (none, s)
  | _ :: before => (some before.reverse, s.drop (before.length + 1))

def encodeUserinfo (s : List Char) : String :=
  String.ofList (Percent.encode Percent.inUserinfo s)

def userinfo (special : Bool) (s : List Char) :
    Except Fault (String × Option String × List Char) :=
  match splitUserinfo special s with
  | (none, rest) => .ok ("", none, rest)
  | (some info, rest) =>
    let hostMissing :=
      match rest with
      | c :: _ => endsSegment special c || endsPath c
      | [] => false
    if info.isEmpty && hostMissing then .error .emptyHost
    else
      let (user, password) := Text.splitFirst ':' info
      let password := password.bind fun p => if p.isEmpty then none else some (encodeUserinfo p)
      .ok (encodeUserinfo user, password, rest)

/-- The text of a host; a colon inside brackets does not end it. -/
def hostSpan (special : Bool) : Bool → List Char → List Char × List Char
  | _, [] => ([], [])
  | inside, c :: r =>
    if (c = ':' ∧ !inside) ∨ endsSegment special c ∨ endsPath c then ([], c :: r)
    else
      let inside := if c = '[' then true else if c = ']' then false else inside
      let (h, rest) := hostSpan special inside r
      (c :: h, rest)

def portNumber (digits : List Char) : Nat :=
  digits.foldl (fun n c => min (n * 10 + (c.toNat - 48)) 65536) 0

/-- A port behind its colon. -/
def port (scheme : String) (s : List Char) : Except Fault (Option Nat × List Char) :=
  let digits := s.takeWhile Char.isDigit
  let rest := s.dropWhile Char.isDigit
  let n := portNumber digits
  let ended :=
    match rest with
    | c :: _ => isSlash c || endsPath c
    | [] => true
  if n > 65535 || !ended then .error .port
  else if digits.isEmpty ∨ defaultPort? scheme = some n then .ok (none, rest)
  else .ok (some n, rest)

/-- A URL behind the two slashes of its authority. -/
def authority (scheme : String) (s : List Char) : Except Fault Url := do
  let special := isSpecial scheme
  let (user, password, r) ← userinfo special s
  let (raw, r) := hostSpan special false r
  if special && raw.isEmpty then throw .emptyHost
  let host ← if special then Host.special raw else Host.general raw
  let empty := host.text = ""
  let colon :=
    match r with
    | ':' :: _ => true
    | _ => false
  if empty && (colon || user ≠ "" || password.isSome) then throw .emptyHost
  let (p, r) ←
    match r with
    | ':' :: r' => port scheme r'
    | _ => .ok (none, r)
  let (parts, r) := pathStart special false r
  .ok (finish ⟨scheme, user, password, some host, p, .segments parts, none, none⟩ r)

/-- A file URL with the given host, behind it. -/
def fileAt (host : Host) (start : List String) (s : List Char) : Url :=
  let (parts, rest) := pathFrom true true start s
  finish ⟨"file", "", none, some host, none, .segments parts, none, none⟩ rest

def noHost : Host := .domain ""

def isDrivePath : List Char → Bool
  | c :: d :: r =>
    isDriveLetter [c, d] &&
      (match r with
      | [] => true
      | e :: _ => isSlash e || endsPath e)
  | _ => false

def dropSlash : List Char → List Char
  | c :: r => if isSlash c then r else c :: r
  | [] => []

def pathParts (u : Url) : List String :=
  match u.path with
  | .segments parts => parts
  | .rootless _ => []

/-- A file URL behind its scheme and colon, or relative to a file. -/
def file (base : Option Url) (s : List Char) : Except Fault Url :=
  match s with
  | a :: b :: r =>
    if isSlash a && isSlash b then do
      let raw := r.takeWhile fun c => !isSlash c && !endsPath c
      if isDriveLetter raw then .ok (fileAt noHost [] r)
      else
        let rest := dropSlash (r.dropWhile fun c => !isSlash c && !endsPath c)
        if raw.isEmpty then .ok (fileAt noHost [] rest)
        else
          let host ← Host.special raw
          let host := if host = .domain "localhost" then noHost else host
          .ok (fileAt host [] rest)
    else single (a :: b :: r)
  | s => single s
where
  single (s : List Char) : Except Fault Url :=
    match s, base with
    | c :: r, some b =>
      let host := b.host.getD noHost
      if isSlash c then
        if isDrivePath r then .ok (fileAt noHost [] r)
        else
          match pathParts b with
          | first :: _ =>
            if isNormalDriveLetter first.toList then .ok (fileAt noHost [first] r)
            else .ok (fileAt host [] r)
          | [] => .ok (fileAt host [] r)
      else if c = '#' then
        .ok { b with fragment := (tail true s).2 }
      else if c = '?' then
        .ok (finish b s)
      else if isDrivePath s then .ok (fileAt noHost [] s)
      else .ok (fileAt host (shorten true (pathParts b).reverse) s)
    | [], some b => .ok { b with fragment := none }
    | c :: r, none => .ok (fileAt noHost [] (if isSlash c then r else c :: r))
    | [], none => .ok (fileAt noHost [] [])

/-- A reference without a scheme, relative to a base with a hierarchical path. -/
def relative (base : Url) (s : List Char) : Except Fault Url :=
  let special := isSpecial base.scheme
  match s with
  | [] => .ok { base with fragment := none }
  | c :: r =>
    if c = '?' then .ok (finish base s)
    else if c = '#' then .ok { base with fragment := (tail special s).2 }
    else if isSlash c then
      match r with
      | d :: r' =>
        if isSlash d then
          if c = '/' ∧ d = '/' then authority base.scheme r'
          else authority base.scheme (r'.dropWhile isSlash)
        else
          let (parts, rest) := pathFrom special false [] r
          .ok (finish { base with path := .segments parts } rest)
      | [] =>
        let (parts, rest) := pathFrom special false [] []
        .ok (finish { base with path := .segments parts } rest)
    else
      let (parts, rest) := pathFrom special false (shorten false (pathParts base).reverse) s
      .ok (finish { base with path := .segments parts } rest)

/-- A URL of a scheme that gives hosts no meaning, behind its colon. -/
def general (scheme : String) (s : List Char) : Except Fault Url :=
  match s with
  | '/' :: '/' :: r => authority scheme r
  | '/' :: r =>
    let (parts, rest) := pathFrom false false [] r
    .ok (finish ⟨scheme, "", none, none, none, .segments parts, none, none⟩ rest)
  | _ =>
    let raw := s.takeWhile fun c => !endsPath c
    let path := String.ofList (Percent.encode Percent.isControl raw)
    .ok (finish ⟨scheme, "", none, none, none, .rootless path, none, none⟩
      (s.dropWhile fun c => !endsPath c))

/-- A URL behind its scheme and colon. -/
def withScheme (base : Option Url) (scheme : String) (s : List Char) : Except Fault Url :=
  if scheme = "file" then
    file (base.bind fun b => if b.scheme = "file" then some b else none) s
  else if isSpecial scheme then
    let slashes := (s.takeWhile isSlash).length
    match base with
    | some b =>
      if slashes < 2 ∧ b.scheme = scheme then relative b s
      else authority scheme (s.dropWhile isSlash)
    | none => authority scheme (s.dropWhile isSlash)
  else general scheme s

def isRootless (u : Url) : Bool :=
  match u.path with
  | .rootless _ => true
  | .segments parts => u.host.isNone && parts.isEmpty

def read (base : Option Url) (text : String) : Except Fault Url :=
  let s := cleaned text
  match scheme? s with
  | some (scheme, r) => withScheme base scheme r
  | none =>
    match base with
    | none => .error .noBase
    | some b =>
      if s.head? = some '#' then .ok { b with fragment := (tail (isSpecial b.scheme) s).2 }
      else if isRootless b then .error .rootlessBase
      else if b.scheme = "file" then file (some b) s
      else relative b s

end Reader

def parse (text : String) : Except Fault Url := Reader.read none text

/-- Reads a reference relative to a URL. -/
def join (base : Url) (text : String) : Except Fault Url := Reader.read (some base) text

end Harvest.Url
