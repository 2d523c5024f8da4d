import Harvest.Number.Binary64
/-!
Decimal text of floating-point numbers: the fewest significant digits that read back as the same
value, and among those the nearest. Values between `1e-5` and `1e16` are written positionally,
with `.0` after a whole number; all others have an exponent.
-/

namespace Harvest.Binary64

/-- `± m * 2 ^ q` divided by `10 ^ e`, as an exact fraction. -/
def overPowerOfTen (m : Nat) (q e : Int) : Nat × Nat :=
  let (a, b) := fraction m q
  match e with
  | .ofNat k => (a, b * Nat.pow 10 k)
  | .negSucc k => (a * Nat.pow 10 (k + 1), b)

/-- The number of decimal digits of the whole part of a fraction at least one, or zero. -/
def wholeDigits (n : Nat) : Nat :=
  if n = 0 then 0 else (Nat.toDigits 10 n).length

/-- The exponent `e` with `10 ^ e ≤ m * 2 ^ q < 10 ^ (e + 1)`, for a positive `m`. -/
def decimalExponent (m : Nat) (q : Int) : Int :=
  let (a, b) := fraction m q
  if b ≤ a then (wholeDigits (a / b) : Int) - 1
  else
    let lead := wholeDigits (b / a)
    let (c, d) := overPowerOfTen m q (-(lead : Int))
    if d ≤ c then -(lead : Int) else -(lead : Int) - 1

/-- The nearer of the two neighbours of the value on the decimal grid of exponent `e` that read
    back as the value. -/
def onGrid? (m : Nat) (q e : Int) : Option Nat :=
  let (a, b) := overPowerOfTen m q e
  let below := a / b
  let rest := a % b
  let readsBack (n : Nat) := ofDecimal false n e == finite false m q
  let order :=
    if 2 * rest < b || (2 * rest == b && below % 2 == 0) then [below, below + 1]
    else [below + 1, below]
  order.find? readsBack

/-- The first grid, from coarse to fine, that has a neighbour reading back. -/
def shortestFrom (m : Nat) (q top : Int) : Nat → Option (Nat × Int)
  | 0 => none
  | left + 1 =>
    let e := top - (17 - (left + 1 : Nat) : Int)
    match onGrid? m q e with
    | some n => some (n, e)
    | none => shortestFrom m q top left

/-- Drops zeros from the end of a digit sequence given as a number. -/
def dropZeros : Nat → Nat → Int → Nat × Int
  | 0, n, e => (n, e)
  | fuel + 1, n, e => if n ≠ 0 ∧ n % 10 = 0 then dropZeros fuel (n / 10) (e + 1) else (n, e)

/-- The shortest decimal `n * 10 ^ e` that reads back as `m * 2 ^ q`. -/
def shortest (m : Nat) (q : Int) : Nat × Int :=
  match shortestFrom m q (decimalExponent m q) 17 with
  | some (n, e) => dropZeros 20 n e
  | none => (m, q)

def zeros (n : Nat) : String :=
  String.ofList (List.replicate n '0')

/-- Lays digits out with a point or an exponent; `point` is the number of digits before the
    point. -/
def layout (digits : List Char) (point : Int) : String :=
  let n := digits.length
  if (n : Int) ≤ point ∧ point ≤ 16 then
    String.ofList digits ++ zeros (point - n).toNat ++ ".0"
  else if 0 < point ∧ point ≤ 16 then
    String.ofList (digits.take point.toNat) ++ "." ++ String.ofList (digits.drop point.toNat)
  else if -5 < point ∧ point ≤ 0 then
    "0." ++ zeros (-point).toNat ++ String.ofList digits
  else
    let exponent := point - 1
    let mark := if exponent < 0 then "e-" else "e+"
    let mantissa :=
      match digits with
      | [d] => String.ofList [d]
      | d :: rest => String.ofList [d] ++ "." ++ String.ofList rest
      | [] => ""
    mantissa ++ mark ++ toString exponent.natAbs

/-- The decimal text of a value; an infinite one has none and is written as a missing value. -/
def text : Binary64 → String
  | finite s m q =>
    let sign := if s then "-" else ""
    if m = 0 then sign ++ "0.0"
    else
      let (n, e) := shortest m q
      let digits := Nat.toDigits 10 n
      sign ++ layout digits (e + digits.length)
  | infinite _ => "null"

end Harvest.Binary64
