import Harvest.Json.Basic
/-!
JSON text. `compact` has no spaces; `pretty` puts every element and member on a line of its own,
indented by two spaces a level, with empty containers kept on one line.
-/

namespace Harvest.Json

def hexDigit (n : Nat) : Char :=
  if n < 10 then Char.ofNat (48 + n) else Char.ofNat (87 + n)

/-- The written form of one character of a string. -/
def escaped (c : Char) : List Char :=
  if c = '"' then ['\\', '"']
  else if c = '\\' then ['\\', '\\']
  else if 0x20 ≤ c.toNat then [c]
  else if c = '\n' then ['\\', 'n']
  else if c = '\r' then ['\\', 'r']
  else if c = '\t' then ['\\', 't']
  else if c.toNat = 8 then ['\\', 'b']
  else if c.toNat = 12 then ['\\', 'f']
  else ['\\', 'u', '0', '0', hexDigit (c.toNat / 16), hexDigit (c.toNat % 16)]

def quoted (s : String) : String :=
  "\"" ++ String.ofList (s.toList.flatMap escaped) ++ "\""

def Number.text : Number → String
  | .int n => toString n
  | .float x => x.text

mutual

def compact : Json → String
  | .null => "null"
  | .bool true => "true"
  | .bool false => "false"
  | .num n => n.text
  | .str s => quoted s
  | .arr items => "[" ++ ",".intercalate (compactItems items) ++ "]"
  | .obj members => "\x7b" ++ ",".intercalate (compactMembers members) ++ "\x7d"

def compactItems : List Json → List String
  | [] => []
  | v :: r => compact v :: compactItems r

def compactMembers : List (String × Json) → List String
  | [] => []
  | (k, v) :: r => (quoted k ++ ":" ++ compact v) :: compactMembers r

end

def indent (level : Nat) : String :=
  "\n" ++ String.ofList (List.replicate (2 * level) ' ')

mutual

def prettyAt (level : Nat) : Json → String
  | .arr [] => "[]"
  | .arr items =>
    "[" ++ ",".intercalate (prettyItems (level + 1) items) ++ indent level ++ "]"
  | .obj [] => "\x7b\x7d"
  | .obj members =>
    "\x7b" ++ ",".intercalate (prettyMembers (level + 1) members) ++ indent level ++ "\x7d"
  | .null => "null"
  | .bool true => "true"
  | .bool false => "false"
  | .num n => n.text
  | .str s => quoted s

def prettyItems (level : Nat) : List Json → List String
  | [] => []
  | v :: r => (indent level ++ prettyAt level v) :: prettyItems level r

def prettyMembers (level : Nat) : List (String × Json) → List String
  | [] => []
  | (k, v) :: r => (indent level ++ quoted k ++ ": " ++ prettyAt level v) :: prettyMembers level r

end

def pretty (v : Json) : String :=
  prettyAt 0 v

end Harvest.Json
