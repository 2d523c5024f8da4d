/-!
Binary floating-point numbers of 64 bits, without the values that are not numbers. A finite value
is a sign, a significand below `2 ^ 53` and an exponent of two. Rounding takes an exact quotient
to the nearest value, a tie to the even significand, and is the only way a value is made.
-/

namespace Harvest

/-- A 64-bit floating-point number; `finite s m q` stands for `± m * 2 ^ q`. -/
inductive Binary64
  | finite (negative : Bool) (significand : Nat) (exponent : Int)
  | infinite (negative : Bool)
  deriving DecidableEq, Repr, Inhabited

namespace Binary64

def isFinite : Binary64 → Bool
  | finite .. => true
  | infinite _ => false

def isZero : Binary64 → Bool
  | finite _ m _ => m == 0
  | infinite _ => false

def isNegative : Binary64 → Bool
  | finite s .. => s
  | infinite s => s

def negate : Binary64 → Binary64
  | finite s m q => finite (!s) m q
  | infinite s => infinite (!s)

/-- The quotient of `n` and `d` to the nearest integer, a half to the even one. -/
def roundDiv (n d : Nat) : Nat :=
  let q := n / d
  let r := n % d
  if 2 * r < d then q
  else if 2 * r > d then q + 1
  else if q % 2 = 0 then q else q + 1

/-- `n / d` as a fraction of natural numbers after a division by `2 ^ q`. -/
def scaled (n d : Nat) : Int → Nat × Nat
  | .ofNat q => (n, d * Nat.pow 2 q)
  | .negSucc q => (n * Nat.pow 2 (q + 1), d)

/-- The exponent at which `n / d` has a quotient of 53 bits, or the least exponent. -/
def exponentOf (n d : Nat) : Int :=
  let guess := max (-1074) ((Nat.log2 n : Int) - Nat.log2 d - 53)
  let (a, b) := scaled n d guess
  if a / b < Nat.pow 2 53 then guess else guess + 1

/-- The value nearest to `± n / d`. -/
def round (negative : Bool) (n d : Nat) : Binary64 :=
  if n = 0 then finite negative 0 (-1074)
  else
    let q := exponentOf n d
    let (a, b) := scaled n d q
    let m := roundDiv a b
    let (m, q) := if m = Nat.pow 2 53 then (Nat.pow 2 52, q + 1) else (m, q)
    if q > 971 then infinite negative else finite negative m q

/-- The value nearest to `± digits * 10 ^ exponent`. Exponents far outside the range of the
    format are decided without computing the power, by bounds on the number of decimal digits. -/
def ofDecimal (negative : Bool) (digits : Nat) (exponent : Int) : Binary64 :=
  if digits = 0 then finite negative 0 (-1074)
  else
    let length : Int := Nat.log2 digits
    if length * 3 / 10 + exponent > 400 then infinite negative
    else if (length + 1) * 31 / 100 + exponent < -400 then finite negative 0 (-1074)
    else
      match exponent with
      | .ofNat e => round negative (digits * Nat.pow 10 e) 1
      | .negSucc e => round negative digits (Nat.pow 10 (e + 1))

def ofNat (n : Nat) : Binary64 :=
  round false n 1

/-- The magnitude as an exact fraction. -/
def fraction (m : Nat) : Int → Nat × Nat
  | .ofNat q => (m * Nat.pow 2 q, 1)
  | .negSucc q => (m, Nat.pow 2 (q + 1))

/-- The rounded product. -/
def mul : Binary64 → Binary64 → Binary64
  | finite s m q, finite t k p =>
    let (a, b) := fraction (m * k) (q + p)
    round (s != t) a b
  | x, y => infinite (x.isNegative != y.isNegative)

/-- The rounded quotient by a value that is neither zero nor infinite. -/
def div : Binary64 → Binary64 → Binary64
  | finite s m q, finite t k p =>
    let (a, b) := fraction m q
    let (c, d) := fraction k p
    round (s != t) (a * d) (b * c)
  | x, y => infinite (x.isNegative != y.isNegative)

/-- The integer that a finite value equals, if it equals one. -/
def toInt? : Binary64 → Option Int
  | finite s m q =>
    let (a, b) := fraction m q
    if a % b = 0 then
      let n := Int.ofNat (a / b)
      some (if s then -n else n)
    else none
  | infinite _ => none

/-- The interchange encoding: sign, eleven bits of biased exponent, fifty-two of fraction. -/
def bits : Binary64 → Nat
  | finite s m q =>
    let sign := if s then Nat.pow 2 63 else 0
    if m < Nat.pow 2 52 then sign + m
    else sign + (q + 1075).toNat * Nat.pow 2 52 + (m - Nat.pow 2 52)
  | infinite s => (if s then Nat.pow 2 63 else 0) + 2047 * Nat.pow 2 52

end Binary64
end Harvest
