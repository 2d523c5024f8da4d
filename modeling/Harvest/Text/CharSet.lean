import Harvest.Text.Blank
/-!
Sets of characters as sorted lists of ranges of code points, and the number format of the tables
of character properties.
-/

namespace Harvest.Text

/-- A set of characters; a range holds both its ends. -/
structure CharSet where
  ranges : List (Nat × Nat)
  deriving DecidableEq, Repr, Inhabited

namespace CharSet

def holds (s : CharSet) (n : Nat) : Bool :=
  s.ranges.any fun (lo, hi) => lo ≤ n && n ≤ hi

def contains (s : CharSet) (c : Char) : Bool :=
  s.holds c.toNat

def empty : CharSet := ⟨[]⟩

/-- Every character: the code points that are not surrogates. -/
def all : CharSet := ⟨[(0, 0xD7FF), (0xE000, 0x10FFFF)]⟩

def single (c : Char) : CharSet := ⟨[(c.toNat, c.toNat)]⟩

/-- Merges neighbours from the left, so that a long range swallows the short ones in it. -/
def merged : Nat → Nat → List (Nat × Nat) → List (Nat × Nat)
  | lo, hi, [] => [(lo, hi)]
  | lo, hi, (lo', hi') :: r =>
    if lo' ≤ hi + 1 then merged lo (max hi hi') r else (lo, hi) :: merged lo' hi' r

def ofRanges (ranges : List (Nat × Nat)) : CharSet :=
  match ranges.mergeSort (fun a b => a.1 ≤ b.1) with
  | [] => ⟨[]⟩
  | (lo, hi) :: r => ⟨merged lo hi r⟩

def union (s t : CharSet) : CharSet :=
  ofRanges (s.ranges ++ t.ranges)

/-- What lies between the ranges, from `start` on. -/
def gaps (start : Nat) : List (Nat × Nat) → List (Nat × Nat)
  | [] => if start ≤ 0x10FFFF then [(start, 0x10FFFF)] else []
  | (lo, hi) :: r => if start < lo then (start, lo - 1) :: gaps (hi + 1) r else gaps (hi + 1) r

def withoutSurrogates (lo hi : Nat) : List (Nat × Nat) :=
  if hi < 0xD800 ∨ 0xDFFF < lo then [(lo, hi)]
  else
    (if lo < 0xD800 then [(lo, 0xD7FF)] else []) ++ (if 0xDFFF < hi then [(0xE000, hi)] else [])

def complement (s : CharSet) : CharSet :=
  ⟨(gaps 0 s.ranges).flatMap fun (lo, hi) => withoutSurrogates lo hi⟩

def inter (s t : CharSet) : CharSet :=
  (s.complement.union t.complement).complement

def diff (s t : CharSet) : CharSet :=
  s.inter t.complement

def symmDiff (s t : CharSet) : CharSet :=
  (s.union t).diff (s.inter t)

end CharSet

/-- The value of a number in base 36. -/
def base36 (s : String) : Nat :=
  s.toList.foldl (fun n c => n * 36 + (if c.isDigit then c.toNat - 48 else c.toNat - 87)) 0

/-- The words of some lines, which spaces separate. -/
def words (lines : List String) : List String :=
  lines.flatMap fun line => (splitChars (· = ' ') line.toList).map String.ofList

/-- The numbers of some lines in base 36. -/
def numbers (lines : List String) : List Nat :=
  (words lines).map base36

def pairs : List Nat → List (Nat × Nat)
  | a :: b :: r => (a, b) :: pairs r
  | _ => []

/-- The characters of the runs whose mark is wanted; a run is a length and a mark. -/
def runRanges (wanted : Nat → Bool) (start : Nat) : List (Nat × Nat) → List (Nat × Nat)
  | [] => []
  | (length, mark) :: r =>
    if wanted mark then (start, start + length - 1) :: runRanges wanted (start + length) r
    else runRanges wanted (start + length) r

def runSet (wanted : Nat → Bool) (start : Nat) (runs : List (Nat × Nat)) : CharSet :=
  CharSet.ofRanges ((runRanges wanted start runs).flatMap fun (lo, hi) =>
    CharSet.withoutSurrogates lo hi)

/-- The ranges of runs that are in the set in turn. -/
def alternatingRanges (inside : Bool) (start : Nat) : List Nat → List (Nat × Nat)
  | [] => []
  | length :: r =>
    if inside then (start, start + length - 1) :: alternatingRanges false (start + length) r
    else alternatingRanges true (start + length) r

def alternating (inside : Bool) (start : Nat) (lengths : List Nat) : CharSet :=
  ⟨alternatingRanges inside start lengths⟩

end Harvest.Text
