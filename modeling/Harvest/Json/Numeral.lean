import Harvest.Json.Basic
/-!
Numerals of JSON. Digits are gathered while the significand fits in 64 bits; later digits only
count towards the scale. An integer that fits stays an integer; anything else becomes a
floating-point number through one rounding of the significand and one rounding for each scaling
by a power of ten. A numeral too large for the format is refused.
-/

namespace Harvest.Json

/-- The largest significand that digits are gathered into. -/
def maxSignificand : Nat := Nat.pow 2 64 - 1

def digit? (c : Char) : Option Nat :=
  if '0' ≤ c ∧ c ≤ '9' then some (c.toNat - 48) else none

/-- The powers of ten of the format, each the nearest value. -/
def powersOfTen : Array Binary64 :=
  ((List.range 309).map fun (e : Nat) => Binary64.ofDecimal false 1 (e : Int)).toArray

def powerOfTen (e : Nat) : Binary64 :=
  powersOfTen.getD e (.infinite false)

/-- Scales down by steps of `10 ^ 308` until the rest of the exponent is a power in the table. -/
def scaleDown : Nat → Binary64 → Nat → Binary64
  | 0, f, _ => f
  | fuel + 1, f, e =>
    if e ≤ 308 then f.div (powerOfTen e)
    else if f.isZero then f
    else scaleDown fuel (f.div (powerOfTen 308)) (e - 308)

/-- `± significand * 10 ^ exponent`, unless it is too large for the format. -/
def scale? (negative : Bool) (significand : Nat) (exponent : Int) : Option Number :=
  let f := Binary64.ofNat significand
  let scaled :=
    match exponent with
    | .ofNat e =>
      if e ≤ 308 then f.mul (powerOfTen e)
      else if f.isZero then f
      else .infinite false
    | .negSucc e => scaleDown 5 f (e + 1)
  if scaled.isFinite then some (.float (if negative then scaled.negate else scaled)) else none

/-- Digits gathered into the significand, the digits gathered, the digits dropped, the rest. -/
def gather (significand taken : Nat) : List Char → Nat × Nat × Nat × List Char
  | [] => (significand, taken, 0, [])
  | c :: r =>
    match digit? c with
    | none => (significand, taken, 0, c :: r)
    | some d =>
      if significand * 10 + d ≤ maxSignificand then gather (significand * 10 + d) (taken + 1) r
      else
        let dropped := (c :: r).takeWhile (fun x => (digit? x).isSome)
        (significand, taken, dropped.length, (c :: r).dropWhile (fun x => (digit? x).isSome))

/-- The value of an exponent's digits, stopping at the largest 32-bit integer. -/
def exponentDigits (value : Nat) : List Char → Nat
  | [] => value
  | c :: r =>
    match digit? c with
    | none => value
    | some d => exponentDigits (min (value * 10 + d) (Nat.pow 2 31)) r

/-- An exponent part after its letter: sign and digits. -/
def exponentPart? (negative : Bool) (significand : Nat) (start : Int) (s : List Char) :
    Option (Number × List Char) :=
  let (down, digits) :=
    match s with
    | '+' :: r => (false, r)
    | '-' :: r => (true, r)
    | r => (false, r)
  let shown := digits.takeWhile (fun x => (digit? x).isSome)
  let rest := digits.dropWhile (fun x => (digit? x).isSome)
  if shown.isEmpty then none
  else
    let e := exponentDigits 0 shown
    if e ≥ Nat.pow 2 31 then
      if significand ≠ 0 ∧ !down then none
      else some (.float (.finite negative 0 (-1074)), rest)
    else
      (scale? negative significand (if down then start - e else start + e)).map (·, rest)

/-- What follows the digits before a point or an exponent. -/
def fractionPart? (negative : Bool) (significand : Nat) (start : Int) (s : List Char) :
    Option (Number × List Char) :=
  let (significand, taken, dropped, rest) := gather significand 0 s
  if taken = 0 ∧ dropped = 0 then none
  else
    let exponent := start - taken
    match rest with
    | c :: r =>
      if c = 'e' ∨ c = 'E' then exponentPart? negative significand exponent r
      else (scale? negative significand exponent).map (·, rest)
    | [] => (scale? negative significand exponent).map (·, rest)

def integer (negative : Bool) (n : Nat) : Number :=
  if negative then
    if n = 0 ∨ n > Nat.pow 2 63 then .float (Binary64.ofNat n).negate else .int (-(n : Int))
  else .int n

/-- A numeral after its sign, and the text behind it. -/
def unsigned? (negative : Bool) (s : List Char) : Option (Number × List Char) :=
  let (significand, taken, dropped, rest) := gather 0 0 s
  let leadingZero : Bool :=
    match s with
    | '0' :: c :: _ => (digit? c).isSome
    | _ => false
  if taken = 0 ∨ leadingZero then none
  else
    match rest with
    | '.' :: r => fractionPart? negative significand dropped r
    | c :: r =>
      if c = 'e' ∨ c = 'E' then exponentPart? negative significand dropped r
      else if dropped = 0 then some (integer negative significand, rest)
      else (scale? negative significand dropped).map (·, rest)
    | [] =>
      if dropped = 0 then some (integer negative significand, rest)
      else (scale? negative significand dropped).map (·, rest)

/-- A numeral at the front of a text. -/
def numeral? : List Char → Option (Number × List Char)
  | '-' :: r => unsigned? true r
  | s => unsigned? false s

end Harvest.Json
