import Harvest.Regex.Program
/-!
Searching a text with a program. The search tries the ways of a split in order and never visits an
instruction twice at one position: what failed there once fails again, since the rest of a search
does not depend on how it got there. So the time is bounded by the instructions times the length
of the text. The match that starts first is found, and of those the one preferred by the splits.
-/

namespace Harvest.Regex

/-- The positions saved so far, by slot, the last saved first. -/
abbrev Slots := List (Nat × Nat)

/-- A way to go on: an instruction, a position in the text and the positions saved. -/
structure Thread where
  place : Nat
  pos : Nat
  slots : Slots

def isWord (unicode : Bool) (c : Option Char) : Bool :=
  match c with
  | none => false
  | some c =>
    if c.toNat < 128 then c.isAlphanum || c = '_'
    else unicode && wordSet.contains c

/-- Whether a look holds between two characters of a text. -/
def Look.holds (before after : Option Char) : Look → Bool
  | .startText => before.isNone
  | .endText => after.isNone
  | .startLine crlf =>
    before.isNone || before == some '\n' ||
      (crlf && before == some '\r' && after != some '\n')
  | .endLine crlf =>
    after.isNone || (if crlf then
      after == some '\r' || (after == some '\n' && before != some '\r')
    else after == some '\n')
  | .wordBoundary u negated => (isWord u before != isWord u after) != negated
  | .wordStart u half => (!isWord u before) && (half || isWord u after)
  | .wordEnd u half => (half || isWord u before) && !isWord u after

/-- The threads that one instruction leads to, in order of preference; a character leads to the
    next position. -/
def Inst.step (text : Array Char) (t : Thread) : Inst → List Thread
  | .accept => []
  | .char s next =>
    match text[t.pos]? with
    | some c => if s.contains c then [⟨next, t.pos + 1, t.slots⟩] else []
    | none => []
  | .look l next =>
    let before := if t.pos = 0 then none else text[t.pos - 1]?
    if l.holds before text[t.pos]? then [⟨next, t.pos, t.slots⟩] else []
  | .split first second => [⟨first, t.pos, t.slots⟩, ⟨second, t.pos, t.slots⟩]
  | .save slot next => [⟨next, t.pos, (slot, t.pos) :: t.slots⟩]

/-- The instructions visited, by place and position. -/
abbrev Visited := Array Bool

/-- Runs the threads of a stack until one accepts. -/
def run (code : Code) (text : Array Char) : Nat → List Thread → Visited → Option Slots × Visited
  | 0, _, seen => (none, seen)
  | _, [], seen => (none, seen)
  | fuel + 1, t :: stack, seen =>
    let key := t.place * (text.size + 1) + t.pos
    if seen.getD key true then run code text fuel stack seen
    else
      let seen := seen.set! key true
      match code[t.place]? with
      | some .accept => (some t.slots, seen)
      | some i => run code text fuel (i.step text t ++ stack) seen
      | none => run code text fuel stack seen

/-- The first match that starts at `start` or later; `left` is the number of starts to try. -/
def findFrom (p : Program) (text : Array Char) : Nat → Nat → Visited → Option Slots
  | 0, _, _ => none
  | left + 1, start, seen =>
    let fuel := 2 * p.code.size * (text.size + 1) + 2
    match run p.code text fuel [⟨p.entry, start, []⟩] seen with
    | (some slots, _) => some slots
    | (none, seen) => findFrom p text left (start + 1) seen

/-- The positions saved by the first match in a text. -/
def Program.find (p : Program) (text : Array Char) : Option Slots :=
  findFrom p text (text.size + 1) 0 (Array.replicate (p.code.size * (text.size + 1)) false)

end Harvest.Regex
