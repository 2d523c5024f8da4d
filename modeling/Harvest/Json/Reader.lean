import Harvest.Json.Numeral
/-!
Reading JSON text. Objects keep every member in order, repeated keys included. Containers nest at
most 127 deep, and nothing but white space may follow the value.
-/

namespace Harvest.Json

namespace Reader

/-- How deep containers may nest. -/
def maxDepth : Nat := 127

def isSpace (c : Char) : Bool :=
  c = ' ' || c = '\n' || c = '\t' || c = '\r'

def skipSpace (s : List Char) : List Char :=
  s.dropWhile isSpace

def hexValue? (c : Char) : Option Nat :=
  if '0' ≤ c ∧ c ≤ '9' then some (c.toNat - 48)
  else if 'a' ≤ c ∧ c ≤ 'f' then some (c.toNat - 87)
  else if 'A' ≤ c ∧ c ≤ 'F' then some (c.toNat - 55)
  else none

/-- Four hexadecimal digits at the front of a text. -/
def unit? : List Char → Option (Nat × List Char)
  | a :: b :: c :: d :: r => do
    let a ← hexValue? a
    let b ← hexValue? b
    let c ← hexValue? c
    let d ← hexValue? d
    some (((a * 16 + b) * 16 + c) * 16 + d, r)
  | _ => none

/-- The character of an escape after `\u`; a surrogate counts only as the first of a pair. -/
def unicodeEscape? (s : List Char) : Option (Char × List Char) := do
  let (n, r) ← unit? s
  if 0xD800 ≤ n ∧ n < 0xDC00 then
    match r with
    | '\\' :: 'u' :: r' =>
      let (m, r'') ← unit? r'
      if 0xDC00 ≤ m ∧ m < 0xE000 then
        some (Char.ofNat (0x10000 + (n - 0xD800) * 0x400 + (m - 0xDC00)), r'')
      else none
    | _ => none
  else if 0xDC00 ≤ n ∧ n < 0xE000 then none
  else some (Char.ofNat n, r)

/-- The character of an escape after its backslash. -/
def escape? : List Char → Option (Char × List Char)
  | '"' :: r => some ('"', r)
  | '\\' :: r => some ('\\', r)
  | '/' :: r => some ('/', r)
  | 'b' :: r => some (Char.ofNat 8, r)
  | 'f' :: r => some (Char.ofNat 12, r)
  | 'n' :: r => some ('\n', r)
  | 'r' :: r => some ('\r', r)
  | 't' :: r => some ('\t', r)
  | 'u' :: r => unicodeEscape? r
  | _ => none

/-- The rest of a string after its opening quote. -/
def stringRest? : Nat → List Char → List Char → Option (String × List Char)
  | 0, _, _ => none
  | _ + 1, _, [] => none
  | fuel + 1, read, c :: r =>
    if c = '"' then some (String.ofList read.reverse, r)
    else if c = '\\' then
      match escape? r with
      | some (d, r') => stringRest? fuel (d :: read) r'
      | none => none
    else if c.toNat < 0x20 then none
    else stringRest? fuel (c :: read) r

def string? : List Char → Option (String × List Char)
  | '"' :: r => stringRest? (r.length + 1) [] r
  | _ => none

/-- A key, its colon and the space around them. -/
def key? (s : List Char) : Option (String × List Char) := do
  let (k, r) ← string? (skipSpace s)
  match skipSpace r with
  | ':' :: r' => some (k, r')
  | _ => none

mutual

/-- A value and the text behind it; `depth` containers may still be opened. -/
def value? : Nat → Nat → List Char → Option (Json × List Char)
  | 0, _, _ => none
  | fuel + 1, depth, s =>
    match skipSpace s with
    | 'n' :: 'u' :: 'l' :: 'l' :: r => some (.null, r)
    | 't' :: 'r' :: 'u' :: 'e' :: r => some (.bool true, r)
    | 'f' :: 'a' :: 'l' :: 's' :: 'e' :: r => some (.bool false, r)
    | '"' :: r => (string? ('"' :: r)).map fun (t, r') => (.str t, r')
    | '[' :: r =>
      if depth = 0 then none
      else
        match skipSpace r with
        | ']' :: r' => some (.arr [], r')
        | r' => (items? fuel (depth - 1) r').map fun (vs, r'') => (.arr vs, r'')
    | '\x7b' :: r =>
      if depth = 0 then none
      else
        match skipSpace r with
        | '\x7d' :: r' => some (.obj [], r')
        | r' => (members? fuel (depth - 1) r').map fun (ms, r'') => (.obj ms, r'')
    | r => (numeral? r).map fun (n, r') => (.num n, r')

/-- The items of an array up to and with its closing bracket. -/
def items? : Nat → Nat → List Char → Option (List Json × List Char)
  | 0, _, _ => none
  | fuel + 1, depth, s =>
    match value? fuel depth s with
    | none => none
    | some (v, r) =>
      match skipSpace r with
      | ',' :: r' => (items? fuel depth r').map fun (vs, r'') => (v :: vs, r'')
      | ']' :: r' => some ([v], r')
      | _ => none

/-- The members of an object up to and with its closing brace. -/
def members? : Nat → Nat → List Char → Option (List (String × Json) × List Char)
  | 0, _, _ => none
  | fuel + 1, depth, s =>
    match key? s with
    | none => none
    | some (k, r) =>
      match value? fuel depth r with
      | none => none
      | some (v, r') =>
        match skipSpace r' with
        | ',' :: r'' => (members? fuel depth r'').map fun (ms, t) => ((k, v) :: ms, t)
        | '\x7d' :: r'' => some ([(k, v)], r'')
        | _ => none

end

end Reader

open Reader in
/-- Reads a whole text as one value. -/
def parse? (text : String) : Option Json :=
  let s := text.toList
  match value? (2 * s.length + 2) maxDepth s with
  | some (v, r) => if (skipSpace r).isEmpty then some v else none
  | none => none

end Harvest.Json
