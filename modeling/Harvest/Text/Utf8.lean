/-!
UTF-8. Decoding never fails: the longest start of a character that goes wrong is replaced as a
whole by U+FFFD, and decoding goes on behind it.
-/

namespace Harvest.Text.Utf8

def encodeChar (c : Char) : List Nat :=
  (String.utf8EncodeChar c).map UInt8.toNat

def encode (s : List Char) : List Nat :=
  s.flatMap encodeChar

def replacement : Char := Char.ofNat 0xFFFD

/-- For a first byte: how many bytes follow, its part of the number, and the range of the second
    byte. -/
def lead? (b : Nat) : Option (Nat × Nat × Nat × Nat) :=
  if 0xC2 ≤ b ∧ b ≤ 0xDF then some (1, b - 0xC0, 0x80, 0xBF)
  else if b = 0xE0 then some (2, 0, 0xA0, 0xBF)
  else if b = 0xED then some (2, 0xD, 0x80, 0x9F)
  else if 0xE1 ≤ b ∧ b ≤ 0xEF then some (2, b - 0xE0, 0x80, 0xBF)
  else if b = 0xF0 then some (3, 0, 0x90, 0xBF)
  else if 0xF1 ≤ b ∧ b ≤ 0xF3 then some (3, b - 0xF0, 0x80, 0xBF)
  else if b = 0xF4 then some (3, 4, 0x80, 0x8F)
  else none

/-- Reads the bytes that follow a first byte: a character or its replacement. -/
def tail (left value lo hi : Nat) : List Nat → Char × List Nat
  | [] => (if left = 0 then Char.ofNat value else replacement, [])
  | b :: r =>
    match left with
    | 0 => (Char.ofNat value, b :: r)
    | left + 1 =>
      if lo ≤ b ∧ b ≤ hi then tail left (value * 64 + (b - 0x80)) 0x80 0xBF r
      else (replacement, b :: r)

theorem tail_length (left value lo hi : Nat) (bytes : List Nat) :
    (tail left value lo hi bytes).2.length ≤ bytes.length := by
  induction bytes generalizing left value lo hi with
  | nil => simp [tail]
  | cons b r ih =>
    cases left with
    | zero => simp [tail]
    | succ left =>
      simp only [tail]
      split
      · exact Nat.le_succ_of_le (ih ..)
      · simp

def decode : List Nat → List Char
  | [] => []
  | b :: r =>
    if b < 0x80 then Char.ofNat b :: decode r
    else
      match lead? b with
      | none => replacement :: decode r
      | some (left, value, lo, hi) =>
        have := tail_length left value lo hi r
        (tail left value lo hi r).1 :: decode (tail left value lo hi r).2
  termination_by bytes => bytes.length
  decreasing_by all_goals simp_wf <;> omega

/-- Decoding that accepts only what encoding produces. -/
def decode? (bytes : List Nat) : Option (List Char) :=
  let s := decode bytes
  if encode s = bytes then some s else none

end Harvest.Text.Utf8
