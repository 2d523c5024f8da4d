import Harvest.Text.Blank
/-!
Numeric addresses. An address of version 4 has up to four numbers, decimal, octal or hexadecimal,
the last filling the bytes that are left; one of version 6 has eight pieces, of which one run of
zeros may be left out. Text is always written in the shortest regular form.
-/

namespace Harvest.Url.Address

def hexValue? (c : Char) : Option Nat :=
  if '0' ≤ c ∧ c ≤ '9' then some (c.toNat - 48)
  else if 'a' ≤ c ∧ c ≤ 'f' then some (c.toNat - 87)
  else if 'A' ≤ c ∧ c ≤ 'F' then some (c.toNat - 55)
  else none

/-- The value of digits in a base. -/
def digits? (base : Nat) (s : List Char) : Option Nat :=
  s.foldl (fun acc c => do
    let n ← acc
    let d ← hexValue? c
    if d < base then some (n * base + d) else none) (some 0)

/-- A number of an address of version 4: none when it is no number. -/
def part? (s : List Char) : Option Nat :=
  match s with
  | [] => none
  | '0' :: 'x' :: r => digits? 16 r
  | '0' :: 'X' :: r => digits? 16 r
  | '0' :: c :: r => digits? 8 (c :: r)
  | r => digits? 10 r

def parts (s : List Char) : List (List Char) :=
  Text.splitChars (· = '.') s

/-- Whether the last label of a name is a number, which makes the name an address. -/
def endsInNumber (s : List Char) : Bool :=
  let last :=
    match (parts s).reverse with
    | [] => []
    | [] :: second :: _ => second
    | first :: _ => first
  (!last.isEmpty && last.all Char.isDigit) || (part? last).isSome

/-- An address of version 4, as a number of 32 bits. -/
def v4? (s : List Char) : Option Nat :=
  let ps := parts s
  let ps := if ps.getLast? = some [] then ps.dropLast else ps
  if ps.length > 4 then none
  else
    match ps.mapM part? with
    | none => none
    | some ns =>
      match ns.reverse with
      | [] => none
      | last :: front =>
        if last ≥ Nat.pow 256 (4 - front.length) ∨ front.any (· > 255) then none
        else some (front.reverse.zipIdx.foldl (fun n (x, i) => n + x * Nat.pow 256 (3 - i)) last)

def v4Bytes (n : Nat) : List Nat :=
  [n / Nat.pow 2 24 % 256, n / Nat.pow 2 16 % 256, n / Nat.pow 2 8 % 256, n % 256]

def v4Text (n : Nat) : String :=
  ".".intercalate ((v4Bytes n).map toString)

/-- One decimal number of an address of version 4 inside one of version 6: no leading zeros. -/
def embeddedByte? (s : List Char) : Option Nat :=
  match s with
  | [] => none
  | ['0'] => some 0
  | '0' :: _ => none
  | r =>
    if r.length > 3 ∨ !r.all Char.isDigit then none
    else (digits? 10 r).bind fun n => if n ≤ 255 then some n else none

/-- The two pieces of an embedded address. -/
def embedded? (s : List Char) : Option (List Nat) :=
  match (parts s).mapM embeddedByte? with
  | some [a, b, c, d] => some [a * 256 + b, c * 256 + d]
  | _ => none

def piece? (s : List Char) : Option Nat :=
  if s.isEmpty ∨ s.length > 4 then none else digits? 16 s

/-- Pieces between colons, of which the last may be an embedded address. -/
def pieces? (s : List Char) : Option (List Nat) :=
  if s.isEmpty then some []
  else
    let fields := Text.splitChars (· = ':') s
    match fields.reverse with
    | [] => none
    | last :: front => do
      let head ← front.reverse.mapM piece?
      if last.contains '.' then
        let pair ← embedded? last
        some (head ++ pair)
      else
        let p ← piece? last
        some (head ++ [p])

/-- The text before the first double colon, and the text behind it. -/
def splitDouble : List Char → Option (List Char × List Char)
  | ':' :: ':' :: r => some ([], r)
  | c :: r => (splitDouble r).map fun (a, b) => (c :: a, b)
  | [] => none

/-- An address of version 6, as eight pieces of 16 bits. -/
def v6? (s : List Char) : Option (List Nat) :=
  match splitDouble s with
  | none => do
    let ps ← pieces? s
    if ps.length = 8 then some ps else none
  | some (before, after) =>
    if before.contains '.' then none
    else do
      let head ← pieces? before
      let tail ← pieces? after
      let missing := 8 - (head.length + tail.length)
      if head.length + tail.length ≥ 8 then none
      else some (head ++ List.replicate missing 0 ++ tail)

def hexText (n : Nat) : String :=
  String.ofList (Nat.toDigits 16 n)

/-- The length of the run of zeros that a list begins with. -/
def zeroRun (ps : List Nat) : Nat :=
  (ps.takeWhile (· = 0)).length

/-- The start and length of the first longest run of at least two zeros. -/
def longestRun (ps : List Nat) : Option (Nat × Nat) :=
  let runs := (List.range ps.length).map fun i => (i, zeroRun (ps.drop i))
  runs.foldl (fun best (i, n) =>
    if n < 2 then best
    else
      match best with
      | some (_, m) => if m < n then some (i, n) else best
      | none => some (i, n)) none

def v6Text (ps : List Nat) : String :=
  let join (qs : List Nat) := ":".intercalate (qs.map hexText)
  match longestRun ps with
  | none => join ps
  | some (i, n) => join (ps.take i) ++ "::" ++ join (ps.drop (i + n))

end Harvest.Url.Address
