import Harvest.Html.Place
/-!
The text of an element: its text nodes in document order and a line feed for every `br`. Scripts,
style sheets and what is not an element add nothing.
-/

namespace Harvest.Html

def isCode (t : Tag) : Bool := t.name = "script" || t.name = "style"

mutual

def Node.flatText : Node → String
  | .text s => s
  | .comment _ => ""
  | .contents _ => ""
  | .element t children =>
    if t.name = "br" then "\n" else if isCode t then "" else flatTextOf children

def flatTextOf : List Node → String
  | [] => ""
  | n :: r => n.flatText ++ flatTextOf r

end

/-- The text below an element, which may be a script itself. -/
def Place.flatText (p : Place) : String := flatTextOf p.nodes

theorem flatTextOf_append (a b : List Node) :
    flatTextOf (a ++ b) = flatTextOf a ++ flatTextOf b := by
  induction a with
  | nil => simp [flatTextOf]
  | cons n r ih => simp [flatTextOf, ih, String.append_assoc]

end Harvest.Html
