import Harvest.Page.Detection
import Harvest.Html.Reader
import Harvest.Route
import Harvest.Url.Reader
/-!
Pages, and which resource applies to one. The host is looked at first, then the document, then
the resources in their order.
-/

namespace Harvest

structure Page where
  url : Url
  document : Html.Document

namespace Page

/-- A page from its address and the text of its document. -/
def parse (url html : String) : Except Error Page :=
  match Url.parse url with
  | .ok u => .ok ⟨u, Html.Document.parse html⟩
  | .error fault => .error (.generic ("Invalid page url " ++ url ++ ": " ++ fault.message))

/-- Why no resource applies to a page. -/
inductive NoMatch
  | noMatchingResource
  | wellKnownResponse (r : WellKnownResponse)
  /-- The location has no host. -/
  | notFound
  deriving DecidableEq, Repr

def NoMatch.text : NoMatch → String
  | .noMatchingResource => "no matching resource"
  | .wellKnownResponse r => "well-known response: " ++ r.text
  | .notFound => "not found"

inductive Check
  | matched (resource : Resource) (bindings : Members)
  | fail (reason : NoMatch)

/-- The variables of a page to which a resource applies. A resource whose template does not
    compile applies to none. -/
def variablesFor? (host : String) (u : Url) (r : Resource) : Option Members :=
  if r.disabled || r.hostname ≠ host then none
  else
    match r.readVariables u with
    | .ok bindings => bindings
    | .error _ => none

/-- The first resource that applies to a page, with the page's variables. -/
def check (p : Page) (resources : List Resource) : Check :=
  match p.url.hostText? with
  | none => .fail .notFound
  | some host =>
    match p.document.wellKnownResponse? with
    | some response => .fail (.wellKnownResponse response)
    | none =>
      match resources.findSome? fun r => (variablesFor? host p.url r).map (r, ·) with
      | some (r, bindings) => .matched r bindings
      | none => .fail .noMatchingResource

end Page

/-- A page under examination, and the resources that it is checked against. -/
structure Matcher where
  page : Page
  resources : List Resource

namespace Matcher

def updatePage (m : Matcher) (p : Page) : Matcher := { m with page := p }

def updateResources (m : Matcher) (rs : List Resource) : Matcher := { m with resources := rs }

def check (m : Matcher) : Page.Check := m.page.check m.resources

end Matcher
end Harvest
