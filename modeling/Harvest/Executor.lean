import Harvest.Page.Scrape
/-!
Execution of jobs. The page of a job is fetched within a limited time and harvested; whatever
happens, there is a result for the job.
-/

namespace Harvest.Executor

/-- The time that a page is given. -/
def standardTimeout : Nat := 10000

/-- What a fetch comes to that must end within some time. One that ends just in time counts. -/
def withinTime (timeout delay : Nat) (fetched : Except Error String) : Except Error String :=
  if delay ≤ timeout then fetched else .error (.timeout timeout)

/-- The result of a job whose fetch came to something. -/
def result (job : Job) (fetched : Except Error String) : JobResult :=
  match fetched with
  | .error e => .ofFailure job.resource.id job.source e.message
  | .ok html =>
    let page : Page := ⟨job.url, Html.Document.parse html⟩
    match page.check [job.resource] with
    | .matched r bindings => .ofPage (page.scrape r bindings job.source)
    | .fail reason =>
      .ofFailure job.resource.id job.source ("Page check failed: " ++ reason.text)

/-- The result of a job, and when it is there. -/
structure Execution where
  result : JobResult
  elapsed : Nat

/-- Executes a job whose fetch takes some time. -/
def execute (timeout : Nat) (job : Job) (delay : Nat) (fetched : Except Error String) :
    Execution :=
  ⟨result job (withinTime timeout delay fetched), min delay timeout⟩

end Harvest.Executor
