import Harvest.Extraction
import Harvest.Job
import Harvest.Page
/-!
Harvesting a page to which a resource applies. A failed extraction does not stop the page: its
payload is empty then, and the error is told in the warnings.
-/

namespace Harvest

/-- The harvested page of a resource that applies, with the variables of its address. -/
def Page.scrape (p : Page) (r : Resource) (bindings : Members) (source : Job.Source) :
    ScrapedPage :=
  let x := r.extract p.document
  match x.payload with
  | .ok payload => ⟨r.id, payload, bindings, source, x.warnings⟩
  | .error e => ⟨r.id, [], bindings, source, x.warnings ++ [e.message]⟩

end Harvest
