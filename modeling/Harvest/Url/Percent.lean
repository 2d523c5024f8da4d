import Harvest.Text.Utf8
/-!
Percent encoding. Each part of a URL has its own set of ASCII characters that are encoded; the
control characters and everything outside ASCII always are.
-/

namespace Harvest.Url.Percent

def isControl (c : Char) : Bool := c.toNat < 0x20 || 0x7E < c.toNat

def inFragment (c : Char) : Bool :=
  isControl c || c = ' ' || c = '"' || c = '<' || c = '>' || c.toNat = 0x60

def inPath (c : Char) : Bool :=
  inFragment c || c = '#' || c = '?' || c = '\x7b' || c = '\x7d'

def inUserinfo (c : Char) : Bool :=
  inPath c || c = '/' || c = ':' || c = ';' || c = '=' || c = '@' || c = '[' || c = '\\' ||
    c = ']' || c = '^' || c = '|'

def inQuery (c : Char) : Bool :=
  isControl c || c = ' ' || c = '"' || c = '#' || c = '<' || c = '>'

def inSpecialQuery (c : Char) : Bool := inQuery c || c.toNat = 39

def upperHex (n : Nat) : Char :=
  if n < 10 then Char.ofNat (48 + n) else Char.ofNat (55 + n)

def encodeByte (b : Nat) : List Char :=
  ['%', upperHex (b / 16), upperHex (b % 16)]

def encode (set : Char → Bool) (s : List Char) : List Char :=
  s.flatMap fun c => if set c then (Text.Utf8.encodeChar c).flatMap encodeByte else [c]

def hexValue? (b : Nat) : Option Nat :=
  if 48 ≤ b ∧ b ≤ 57 then some (b - 48)
  else if 97 ≤ b ∧ b ≤ 102 then some (b - 87)
  else if 65 ≤ b ∧ b ≤ 70 then some (b - 55)
  else none

/-- Decodes each percent sign with two hexadecimal digits behind it; others stay. -/
def decodeBytes : List Nat → List Nat
  | [] => []
  | 37 :: a :: b :: r =>
    match hexValue? a, hexValue? b with
    | some x, some y => (x * 16 + y) :: decodeBytes r
    | _, _ => 37 :: decodeBytes (a :: b :: r)
  | b :: r => b :: decodeBytes r

end Harvest.Url.Percent
