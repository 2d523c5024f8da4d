/-!
Blank characters, trimming and splitting. A character is blank when it has the White_Space
property of Unicode; trimming takes blanks off one end or both and keeps everything between.
-/

namespace Harvest.Text

/-- The characters with the White_Space property. -/
def isBlank (c : Char) : Bool :=
  let n := c.toNat
  (9 ≤ n && n ≤ 13) || n == 0x20 || n == 0x85 || n == 0xA0 || n == 0x1680 ||
    (0x2000 ≤ n && n ≤ 0x200A) || n == 0x2028 || n == 0x2029 || n == 0x202F ||
    n == 0x205F || n == 0x3000

def trimStart (s : List Char) : List Char :=
  s.dropWhile isBlank

def trimEnd : List Char → List Char
  | [] => []
  | c :: r =>
    match trimEnd r with
    | [] => if isBlank c then [] else [c]
    | t => c :: t

def trim (s : List Char) : List Char :=
  trimEnd (trimStart s)

/-- `trim` on strings. -/
def trimmed (s : String) : String :=
  String.ofList (trim s.toList)

/-- ASCII letters are lowered and every other character is kept. -/
def lowered (s : String) : String :=
  String.ofList (s.toList.map Char.toLower)

theorem isBlank_of_isWhitespace (c : Char) (h : c.isWhitespace = true) : isBlank c = true := by
  simp only [Char.isWhitespace, Bool.or_eq_true, decide_eq_true_eq] at h
  rcases h with ((rfl | rfl) | rfl) | rfl <;> decide

/-- Splits a text at every character that `p` accepts; there is one part more than separators. -/
def splitChars (p : Char → Bool) : List Char → List (List Char)
  | [] => [[]]
  | c :: r =>
    if p c then [] :: splitChars p r
    else
      match splitChars p r with
      | [] => [[c]]
      | part :: parts => (c :: part) :: parts

/-- The text before the first `c`, and the text after it when there is one. -/
def splitFirst (c : Char) : List Char → List Char × Option (List Char)
  | [] => ([], none)
  | d :: r =>
    if d = c then ([], some r)
    else
      let (before, after) := splitFirst c r
      (d :: before, after)

/-- Whether a word stands somewhere in a text. -/
def mentions (word : List Char) : List Char → Bool
  | [] => word.isEmpty
  | c :: r => word.isPrefixOf (c :: r) || mentions word r

end Harvest.Text
