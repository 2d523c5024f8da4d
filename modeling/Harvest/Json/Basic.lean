import Harvest.Number.Shortest
/-!
JSON values. An object is a list of members in the order of the text, so that a reader can report
repeated keys. `Members.insert` keeps a list sorted by key with one member per key; `canonical`
brings every object inside a value into that form, the last member of a key winning.
-/

namespace Harvest

/-- An integer of 64 bits, signed or unsigned, or a floating-point number. -/
inductive Json.Number
  | int (n : Int)
  | float (x : Binary64)
  deriving DecidableEq, Repr, Inhabited

inductive Json
  | null
  | bool (b : Bool)
  | num (n : Json.Number)
  | str (s : String)
  | arr (items : List Json)
  | obj (members : List (String × Json))
  deriving Repr, Inhabited, BEq

abbrev Members := List (String × Json)

namespace Members

def get? (key : String) : Members → Option Json
  | [] => none
  | (k, v) :: r => if k = key then some v else get? key r

/-- Puts a member at its place in key order, replacing the one that has the key. -/
def insert (key : String) (value : Json) : Members → Members
  | [] => [(key, value)]
  | (k, v) :: r =>
    if key < k then (key, value) :: (k, v) :: r
    else if key = k then (key, value) :: r
    else (k, v) :: insert key value r

/-- The members of `newer` put into `base` one after the other. -/
def override (base newer : Members) : Members :=
  newer.foldl (fun acc (k, v) => insert k v acc) base

def ofList (members : List (String × Json)) : Members :=
  override [] members

theorem get?_insert_self (key : String) (value : Json) (m : Members) :
    (insert key value m).get? key = some value := by
  induction m with
  | nil => simp [insert, get?]
  | cons head rest ih =>
    obtain ⟨k, v⟩ := head
    simp only [insert]
    split
    · simp [get?]
    · split
      · simp [get?]
      · next h => simp [get?, Ne.symm h, ih]

theorem get?_insert_of_ne {key other : String} (h : other ≠ key) (value : Json) (m : Members) :
    (insert key value m).get? other = m.get? other := by
  induction m with
  | nil => simp [insert, get?, Ne.symm h]
  | cons head rest ih =>
    obtain ⟨k, v⟩ := head
    simp only [insert]
    split
    · simp [get?, Ne.symm h]
    · split
      · next hk => subst hk; simp [get?, Ne.symm h]
      · simp only [get?, ih]

end Members

namespace Json

def int (n : Int) : Json := .num (.int n)

def nat (n : Nat) : Json := .num (.int n)

def object (members : List (String × Json)) : Json := .obj members

def ofOption (f : α → Json) : Option α → Json
  | some a => f a
  | none => .null

mutual

/-- The value with every object sorted by key and one member per key. -/
def canonical : Json → Json
  | .arr items => .arr (canonicalItems items)
  | .obj members => .obj (Members.ofList (canonicalMembers members))
  | .null => .null
  | .bool b => .bool b
  | .num n => .num n
  | .str s => .str s

def canonicalItems : List Json → List Json
  | [] => []
  | v :: r => canonical v :: canonicalItems r

def canonicalMembers : List (String × Json) → List (String × Json)
  | [] => []
  | (k, v) :: r => (k, canonical v) :: canonicalMembers r

end

mutual

/-- How many brackets stand around the innermost value, and one more. -/
def depth : Json → Nat
  | .arr items => depthOfItems items + 1
  | .obj members => depthOfMembers members + 1
  | .null => 1
  | .bool _ => 1
  | .num _ => 1
  | .str _ => 1

def depthOfItems : List Json → Nat
  | [] => 0
  | v :: r => max v.depth (depthOfItems r)

def depthOfMembers : List (String × Json) → Nat
  | [] => 0
  | (_, v) :: r => max v.depth (depthOfMembers r)

end

end Json
end Harvest
