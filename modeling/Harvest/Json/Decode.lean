import Harvest.Json.Basic
/-!
Reading records and tagged values. A record is an object, or an array of its fields in their
order. Unknown members are ignored and a known one must not be repeated. A tagged value is an
object with a member `kind`, or an array that starts with the kind.
-/

namespace Harvest.Json

/-- What stands for a field of a record. -/
inductive Field
  | given (v : Json)
  /-- An object has no such member. -/
  | absent
  /-- An array ends before the field. -/
  | cut

namespace Field

/-- A field that every record has. -/
def required (f : Json → Option α) : Field → Option α
  | given v => f v
  | absent => none
  | cut => none

/-- A field that stands for a default when it is left out. -/
def orDefault (d : α) (f : Json → Option α) : Field → Option α
  | given v => f v
  | absent => some d
  | cut => some d

/-- A field that may be null or left out. -/
def nullable (f : Json → Option α) : Field → Option (Option α)
  | given .null => some none
  | given v => (f v).map some
  | absent => some none
  | cut => some none

end Field

def string? : Json → Option String
  | .str s => some s
  | _ => none

def bool? : Json → Option Bool
  | .bool b => some b
  | _ => none

def list? (f : Json → Option α) : Json → Option (List α)
  | .arr items => items.mapM f
  | _ => none

def object? : Json → Option Members
  | .obj m => some m
  | _ => none

def isRepeated (name : String) (members : List (String × Json)) : Bool :=
  1 < (members.filter fun m => m.1 = name).length

/-- The fields of an array in their order; the array must not be longer than the record. -/
def fieldsOfArray : List String → List Json → Option (List Field)
  | [], [] => some []
  | [], _ :: _ => none
  | _ :: names, [] => (fieldsOfArray names []).map (.cut :: ·)
  | _ :: names, v :: r => (fieldsOfArray names r).map (.given v :: ·)

def record? (names : List String) : Json → Option (List Field)
  | .obj members =>
    if names.any fun n => isRepeated n members then none
    else
      some (names.map fun n =>
        match Members.get? n members with
        | some v => .given v
        | none => .absent)
  | .arr items => fieldsOfArray names items
  | _ => none

/-- How the kind of a tagged value is given. -/
inductive Kind
  | named (s : String)
  | numbered (n : Int)

/-- The kind and the content of a tagged value. -/
def tagged? : Json → Option (Kind × Json)
  | .obj members =>
    if isRepeated "kind" members then none
    else
      let rest := members.filter fun m => m.1 ≠ "kind"
      match Members.get? "kind" members with
      | some (.str s) => some (.named s, .obj rest)
      | some (.num (.int n)) => some (.numbered n, .obj rest)
      | _ => none
  | .arr (.str s :: rest) => some (.named s, .arr rest)
  | .arr (.num (.int n) :: rest) => some (.numbered n, .arr rest)
  | _ => none

/-- Whether the kind of a tagged value may be given by its number: it may inside of other tagged
    values. -/
inductive Nesting
  | outer
  | inner
  deriving DecidableEq

/-- Which of some kinds it is. -/
def Kind.index? (nesting : Nesting) (kinds : List String) : Kind → Option (Option Nat)
  | .named s => some (kinds.findIdx? (· = s))
  | .numbered n =>
    if nesting = .outer ∨ n < 0 then none
    else if n < kinds.length then some (some n.toNat)
    else some none

/-- A name out of a list, written alone or as the only key of an object that holds nothing. -/
def choice? (names : List String) : Json → Option Nat
  | .str s => names.findIdx? (· = s)
  | .obj [(s, .null)] => names.findIdx? (· = s)
  | _ => none

/-- A `choice?` whose key may also hold an empty object. -/
def innerChoice? (names : List String) : Json → Option Nat
  | .obj [(s, .obj [])] => names.findIdx? (· = s)
  | v => choice? names v

end Harvest.Json
