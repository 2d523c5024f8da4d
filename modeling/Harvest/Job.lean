import Harvest.Error
import Harvest.Route
import Harvest.Timestamp
import Harvest.Url.Reader
/-!
Jobs. A coordinator asks for one page of one resource; a job is made only of a request whose page
belongs to the resource.
-/

namespace Harvest

/-- How far a server may have this client act on its own. -/
inductive Autonomy
  /-- Only pages that the user visits are reported. -/
  | passive
  /-- Jobs may be fetched and executed. -/
  | active
  deriving DecidableEq, Repr

def Autonomy.text : Autonomy → String
  | .passive => "passive"
  | .active => "active"

/-- A coordinator. -/
structure Server where
  id : String
  name : String
  url : String
  /-- What stands in the header that authorizes requests. -/
  token : String
  autonomy : Autonomy
  deriving DecidableEq, Repr

/-- A request for a page. -/
structure Job.Parameters where
  id : String
  resourceId : String
  url : String
  issuedAt : Timestamp
  expiresAt : Timestamp
  deriving DecidableEq, Repr

def Job.Parameters.isExpired (p : Job.Parameters) (now : Timestamp) : Bool :=
  !now.before p.expiresAt

/-- How a page came to be harvested. -/
inductive Job.Source
  /-- On behalf of a job. -/
  | active (id : String)
  /-- While the user visited it. -/
  | passive
  deriving DecidableEq, Repr

structure Job where
  parameters : Job.Parameters
  resource : Resource
  autonomy : Autonomy
  url : Url

namespace Job

/-- A job, if the page that is asked for belongs to the resource. -/
def make (p : Parameters) (r : Resource) (autonomy : Autonomy) : Except Error Job :=
  match Url.parse p.url with
  | .error fault =>
    .error (.invalidJob ("unparseable url " ++ p.url ++ ": " ++ fault.message))
  | .ok u =>
    if r.disabled then .error (.invalidJob ("resource " ++ r.id ++ " is disabled"))
    else if u.hostText? ≠ some r.hostname then
      .error (.invalidJob
        ("host of " ++ p.url ++ " does not match resource hostname " ++ r.hostname))
    else
      match Route.compile r.urlPattern with
      | .error e => .error e
      | .ok route =>
        if route.isMatch u.pathText then .ok ⟨p, r, autonomy, u⟩
        else
          .error (.invalidJob
            ("path of " ++ p.url ++ " does not match pattern " ++ r.urlPattern))

def id (j : Job) : String := j.parameters.id

def source (j : Job) : Source := .active j.id

end Job

/-- A page as it was harvested. -/
structure ScrapedPage where
  resourceId : String
  payload : Members
  /-- The variables of its address. -/
  bindings : Members
  source : Job.Source
  warnings : List String
  deriving Repr, BEq

/-- What is submitted for a page. The flag of success is written as it was read. -/
inductive JobResult
  | success (flag : Bool) (page : ScrapedPage)
  | failure (flag : Bool) (resourceId : String) (source : Job.Source) (error : String)
  deriving Repr, BEq

namespace JobResult

def ofPage (p : ScrapedPage) : JobResult := .success true p

def ofFailure (resourceId : String) (source : Job.Source) (error : String) : JobResult :=
  .failure false resourceId source error

def resourceId : JobResult → String
  | success _ p => p.resourceId
  | failure _ id _ _ => id

def source : JobResult → Job.Source
  | success _ p => p.source
  | failure _ _ s _ => s

def isSuccess : JobResult → Bool
  | success .. => true
  | failure .. => false

end JobResult
end Harvest
