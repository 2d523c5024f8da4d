import Harvest.Regex.Pattern
/-!
Programs for matching. A program is an array of instructions that point to each other; a split
prefers its first way. A repetition of something that may be empty is an optional repetition of at
least once, so that an empty round can still be left.
-/

namespace Harvest.Regex

open Harvest.Text (CharSet)

inductive Inst
  | accept
  | char (set : CharSet) (next : Nat)
  | look (l : Look) (next : Nat)
  | split (first second : Nat)
  | save (slot : Nat) (next : Nat)
  deriving Repr, Inhabited

abbrev Code := Array Inst

namespace Code

/-- Appends an instruction and gives its place. -/
def emit (code : Code) (i : Inst) : Nat × Code :=
  (code.size, code.push i)

def choose (greedy : Bool) (into past : Nat) : Inst :=
  if greedy then .split into past else .split past into

/-- `n` copies of a fragment one after the other, the last going on at `next`. -/
def copies (fragment : Nat → Code → Nat × Code) : Nat → Nat → Code → Nat × Code
  | 0, next, code => (next, code)
  | n + 1, next, code =>
    let (entry, code) := copies fragment n next code
    fragment entry code

/-- At most `n` copies of a fragment, each of which may be left for `exit`. -/
def atMost (fragment : Nat → Code → Nat × Code) (greedy : Bool) (exit : Nat) :
    Nat → Code → Nat × Code
  | 0, code => (exit, code)
  | n + 1, code =>
    let (later, code) := atMost fragment greedy exit n code
    let (into, code) := fragment later code
    code.emit (choose greedy into exit)

/-- A fragment followed by a choice between another round and `next`: the entry of the fragment
    and the place of the choice. -/
def loop (fragment : Nat → Code → Nat × Code) (greedy : Bool) (next : Nat) (code : Code) :
    Nat × Nat × Code :=
  let (place, code) := code.emit (.split next next)
  let (into, code) := fragment place code
  (into, place, code.set! place (choose greedy into next))

/-- The instructions of a repetition. -/
def repetition (fragment : Nat → Code → Nat × Code) (consumes : Bool) (least : Nat)
    (most : Option Nat) (greedy : Bool) (next : Nat) (code : Code) : Nat × Code :=
  match most with
  | some m =>
    let (entry, code) := atMost fragment greedy next (m - least) code
    copies fragment least entry code
  | none =>
    let (into, place, code) := loop fragment greedy next code
    match least with
    | 0 => if consumes then (place, code) else code.emit (choose greedy into next)
    | n + 1 => copies fragment n into code

end Code

/-- Puts the instructions of a pattern before the place `next` and gives their entry. -/
def Pattern.assemble : Pattern → Nat → Code → Nat × Code
  | .empty, next, code => (next, code)
  | .char s, next, code => code.emit (.char s next)
  | .look l, next, code => code.emit (.look l next)
  | .seq a b, next, code =>
    let (entry, code) := b.assemble next code
    a.assemble entry code
  | .alt a b, next, code =>
    let (second, code) := b.assemble next code
    let (first, code) := a.assemble next code
    code.emit (.split first second)
  | .rep p least most greedy, next, code =>
    Code.repetition p.assemble p.consumes least most greedy next code
  | .group i p, next, code =>
    let (close, code) := code.emit (.save (2 * i + 1) next)
    let (entry, code) := p.assemble close code
    code.emit (.save (2 * i) entry)

structure Program where
  code : Code
  entry : Nat
  deriving Repr, Inhabited

/-- The program of a pattern, which accepts behind it. -/
def Pattern.program (p : Pattern) : Program :=
  let (entry, code) := (Pattern.group 0 p).assemble 0 #[.accept]
  ⟨code, entry⟩

end Harvest.Regex
