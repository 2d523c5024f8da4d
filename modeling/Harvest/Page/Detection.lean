import Harvest.Css.Match
/-!
Pages that stand in for the requested one. A challenge page is told by a script from one of a few
addresses.
-/

namespace Harvest

inductive WellKnownResponse
  /-- A bot challenge. -/
  | cloudflare
  deriving DecidableEq, Repr

def WellKnownResponse.text : WellKnownResponse → String
  | .cloudflare => "cloudflare"

/-- Selectors of the scripts of a challenge. -/
def challengeSignatures : List String :=
  ["script[src^=\"https://challenges.cloudflare.com/cdn-cgi/challenge-platform\"]",
   "script[src^=\"https://challenges.cloudflare.com/turnstile/\"]",
   "script[src^=\"/cdn-cgi/challenge-platform/\"]"]

/-- Whether a document has an element that a selector selects; a text that is no selector
    selects nothing. -/
def Html.Document.has (d : Html.Document) (selector : String) : Bool :=
  match Css.Selector.parse? selector with
  | some s => d.elements.any s.selects
  | none => false

def Html.Document.wellKnownResponse? (d : Html.Document) : Option WellKnownResponse :=
  if challengeSignatures.any d.has then some .cloudflare else none

end Harvest
