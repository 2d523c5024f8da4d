import Harvest.Extraction
import Harvest.Html.Reader
/-!
Documents that change while they are loaded. A resource may name selectors of which one must
select something before the document counts as loaded; until then it is looked at again and
again, for a limited time. A look that ends just when the time is up still counts. Looks that take
no time and follow each other at once may go on for good.
-/

namespace Harvest

/-- What a look at a document shows, and how long the look takes. -/
structure Look where
  result : Except Error String
  delay : Nat

/-- A document by the looks at it, in their order. -/
abbrev LiveDocument := Nat → Look

namespace Loading

/-- How long is waited between two looks, and in all. -/
structure Patience where
  interval : Nat
  timeout : Nat
  deriving DecidableEq, Repr

def Patience.standard : Patience := ⟨100, 10000⟩

/-- How waiting ends: with the number of looks that were in vain or with an error, after some
    time and some looks. -/
structure Ending where
  result : Except Error Nat
  elapsed : Nat
  looks : Nat

/-- Whether one of the selectors selects something. -/
def isReady (selectors : List Css.Selector) (html : String) : Bool :=
  let d := Html.Document.parse html
  selectors.any fun s => !(s.inDocument d).isEmpty

/-- Waits from the look with the given number on, which begins at `start`. -/
def Patience.poll (p : Patience) (d : LiveDocument) (selectors : List Css.Selector)
    (look start : Nat) : Option Ending :=
  let done := start + (d look).delay
  if p.timeout < done then some ⟨.error (.timeout p.timeout), p.timeout, look + 1⟩
  else
    match (d look).result with
    | .error e => some ⟨.error e, done, look + 1⟩
    | .ok html =>
      if isReady selectors html then some ⟨.ok look, done, look + 1⟩
      else if p.timeout < done + p.interval then
        some ⟨.error (.timeout p.timeout), p.timeout, look + 1⟩
      else p |>.poll d selectors (look + 1) (done + p.interval)
partial_fixpoint

/-- The selectors that a resource waits for. -/
def selectors (r : Resource) : Except Error (List Css.Selector) :=
  (r.waitFor.getD []).mapM Css.selector

def wait (d : LiveDocument) (r : Resource) (p : Patience) : Option Ending :=
  match selectors r with
  | .error e => some ⟨.error e, 0, 0⟩
  | .ok [] => some ⟨.ok 0, 0, 0⟩
  | .ok selectors => p.poll d selectors 0 0

end Loading
end Harvest
