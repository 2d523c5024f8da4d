import Harvest.Html.Place
import Harvest.Text.Blank
/-!
Styles of elements, as far as the `style` attribute tells them. Declarations stand between
semicolons, a name before the first colon; of several declarations of one name the last counts.
-/

namespace Harvest

/-- The declarations of an element, names in lower case. -/
structure Style where
  declarations : List (String × String)
  deriving DecidableEq, Repr

namespace Style

def declaration? (s : List Char) : Option (String × String) :=
  match Text.splitFirst ':' s with
  | (name, some value) =>
    some (Text.lowered (String.ofList (Text.trim name)), String.ofList (Text.trim value))
  | (_, none) => none

def ofText (s : String) : Style :=
  ⟨(Text.splitChars (· = ';') s.toList).filterMap declaration?⟩

/-- The value of the last declaration of a property. -/
def get? (s : Style) (property : String) : Option String :=
  s.declarations.reverse.lookup (Text.lowered property)

/-- The style of an element; nothing is known of the styles of pseudo-elements. -/
def ofTag (t : Html.Tag) (pseudo : Option String) : Option Style :=
  match pseudo with
  | some p => if p = "" then some (inline t) else none
  | none => some (inline t)
where
  inline (t : Html.Tag) : Style := ofText ((t.attribute? "style").getD "")

end Style
end Harvest
