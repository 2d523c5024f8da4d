/-!
Punycode: writing text outside ASCII in the letters and digits of host names. The ASCII characters
come first; the others follow as numbers of variable length that tell where each is inserted.
-/

namespace Harvest.Url.Punycode

/-- The threshold of a digit at the step `k`. -/
def threshold (k bias : Nat) : Nat :=
  if k ≤ bias then 1 else if bias + 26 ≤ k then 26 else k - bias

def shrink : Nat → Nat → Nat → Nat × Nat
  | 0, delta, k => (delta, k)
  | fuel + 1, delta, k => if delta > 455 then shrink fuel (delta / 35) (k + 36) else (delta, k)

/-- The next bias after a number has been written or read. -/
def adapt (delta points : Nat) (first : Bool) : Nat :=
  let delta := if first then delta / 700 else delta / 2
  let (delta, k) := shrink 64 (delta + delta / points) 0
  k + 36 * delta / (delta + 38)

def digitChar (d : Nat) : Char :=
  if d < 26 then Char.ofNat (97 + d) else Char.ofNat (22 + d)

def digitValue? (c : Char) : Option Nat :=
  if 'a' ≤ c ∧ c ≤ 'z' then some (c.toNat - 97)
  else if 'A' ≤ c ∧ c ≤ 'Z' then some (c.toNat - 65)
  else if '0' ≤ c ∧ c ≤ '9' then some (c.toNat - 22)
  else none

/-- The digits of one number. -/
def writeNumber : Nat → Nat → Nat → Nat → List Char
  | 0, _, _, _ => []
  | fuel + 1, q, k, bias =>
    let t := threshold k bias
    if q < t then [digitChar q]
    else digitChar (t + (q - t) % (36 - t)) :: writeNumber fuel ((q - t) / (36 - t)) (k + 36) bias

structure State where
  delta : Nat
  bias : Nat
  handled : Nat

/-- One pass over the text for the character `m`: each occurrence is written. -/
def pass (m basic : Nat) (st : State) : List Nat → List Char × State
  | [] => ([], st)
  | c :: r =>
    if c < m then pass m basic { st with delta := st.delta + 1 } r
    else if c = m then
      let digits := writeNumber 64 st.delta 36 st.bias
      let bias := adapt st.delta (st.handled + 1) (st.handled = basic)
      let (rest, st) := pass m basic ⟨0, bias, st.handled + 1⟩ r
      (digits ++ rest, st)
    else pass m basic st r

/-- Writes the characters not below `n`, in order. -/
def encodeFrom (text : List Nat) (basic : Nat) : Nat → Nat → State → List Char
  | 0, _, _ => []
  | fuel + 1, n, st =>
    match (text.filter (n ≤ ·)).min? with
    | none => []
    | some m =>
      let st := { st with delta := st.delta + (m - n) * (st.handled + 1) }
      let (digits, st) := pass m basic st text
      digits ++ encodeFrom text basic fuel (m + 1) { st with delta := st.delta + 1 }

def encode (s : List Char) : List Char :=
  let ascii := s.filter fun c => c.toNat < 128
  let text := s.map Char.toNat
  let lead := if ascii.isEmpty then [] else ascii ++ ['-']
  lead ++ encodeFrom text ascii.length (s.length + 1) 128 ⟨0, 72, ascii.length⟩

/-- Reads one number: its value and the text behind it. -/
def readNumber (bias : Nat) : Nat → Nat → Nat → List Char → Option (Nat × List Char)
  | _, _, _, [] => none
  | value, weight, k, c :: r =>
    match digitValue? c with
    | none => none
    | some d =>
      let value := value + d * weight
      let t := threshold k bias
      if value ≥ Nat.pow 2 32 then none
      else if d < t then some (value, r)
      else readNumber bias value (weight * (36 - t)) (k + 36) r

def insertAt (c : Char) : Nat → List Char → List Char
  | 0, s => c :: s
  | _ + 1, [] => [c]
  | i + 1, d :: s => d :: insertAt c i s

/-- Reads the numbers of a text and inserts their characters. -/
def decodeFrom : Nat → Nat → Nat → Nat → List Char → List Char → Option (List Char)
  | 0, _, _, _, _, _ => none
  | _ + 1, _, _, _, out, [] => some out
  | fuel + 1, n, i, bias, out, s =>
    match readNumber bias i 1 36 s with
    | none => none
    | some (value, rest) =>
      let points := out.length + 1
      let n := n + value / points
      let place := value % points
      if n ≥ 0x110000 ∨ (0xD800 ≤ n ∧ n ≤ 0xDFFF) then none
      else
        decodeFrom fuel n (place + 1) (adapt (value - i) points (i = 0))
          (insertAt (Char.ofNat n) place out) rest

/-- The text before the last hyphen, and the text behind it. -/
def splitLast (s : List Char) : List Char × List Char :=
  match s.reverse.dropWhile (· ≠ '-') with
  | [] => ([], s)
  | _ :: before => (before.reverse, (s.reverse.takeWhile (· ≠ '-')).reverse)

def decode? (s : List Char) : Option (List Char) :=
  let (ascii, rest) := splitLast s
  if ascii.any fun c => c.toNat ≥ 128 then none
  else decodeFrom (rest.length + 1) 128 0 72 ascii rest

end Harvest.Url.Punycode
