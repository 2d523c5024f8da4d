import Harvest.Http
import Harvest.Job.Decode
import Harvest.Job.Encode
import Harvest.Url.Form
/-!
What is said to a coordinator. Its resources are fetched, it is polled for jobs, and results are
submitted to it under the condition that the resource has not changed.
-/

namespace Harvest.Coordinator

open Http

/-- An address of a coordinator; the path of its base is replaced. -/
def endpoint (base path : String) : Except Error Url :=
  match (Url.parse base).bind fun u => u.join path with
  | .ok u => .ok u
  | .error fault => .error (.config ("Invalid server url " ++ base ++ ": " ++ fault.message))

def jsonContent : String := "application/json; charset=utf-8"

/-- The header fields of every request. -/
def headers (userAgent token : String) : Except Error (List (String × Value)) :=
  (Value.ofText token).map fun t =>
    [("authorization", t), ("content-type", .text jsonContent), ("idempotency-key", .freshKey),
     ("user-agent", .text userAgent)]

/-! Requests -/

def resourcesRequest (userAgent : String) (s : Server) : Except Error Request := do
  let url ← endpoint s.url "/resources"
  let fields ← headers userAgent s.token
  return ⟨.get, url, fields, none⟩

/-- A URL with more pairs in its query. -/
def withPairs (u : Url) (pairs : List (String × String)) : Url :=
  let added := Url.Form.encode pairs
  { u with query := some (match u.query with
    | none => added
    | some "" => added
    | some q => q ++ "&" ++ added) }

/-- Asks for jobs of some resources. -/
def jobsRequest (userAgent : String) (s : Server) (resources : List String) :
    Except Error Request := do
  let url ← endpoint s.url "/worker/jobs"
  let pairs := ("autonomy", s.autonomy.text) :: resources.map fun id => ("resource[]", id)
  let fields ← headers userAgent s.token
  return ⟨.get, withPairs url pairs, fields, none⟩

/-- Submits a result that was made with the version of a resource. -/
def submitRequest (userAgent : String) (s : Server) (hash : String) (result : JobResult) :
    Except Error Request := do
  let url ← endpoint s.url "/worker/jobs"
  let fields ← headers userAgent s.token
  let version ← Value.ofText hash
  return ⟨.post, url, fields ++ [("if-match", version)], some result.toJson⟩

/-! Replies -/

/-- The document in the body of a successful answer. -/
def document (timeout : Nat) (r : Request) (reply : Reply) (decode : Json → Option α) :
    Except Error α :=
  match reply with
  | .error failure => .error (failure.error timeout)
  | .ok response =>
    if !response.isSuccess then .error (statusError response.status r.url.text)
    else
      match response.text with
      | .error e => .error e
      | .ok text =>
        match (Json.parse? text).bind decode with
        | some a => .ok a
        | none => .error (.serialization "unexpected document")

def catalog (timeout : Nat) (r : Request) (reply : Reply) : Except Error Resource.Catalog :=
  document timeout r reply (Resource.Catalog.ofJson? .outer)

/-- The answer to a poll. -/
structure Jobs where
  jobs : List Job.Parameters
  /-- Whether the resources have changed and should be fetched again. -/
  wantsResources : Bool

/-- Whether what is to be fetched again are the resources; other names are let pass. -/
def isResourcesTarget? : Json → Option Bool
  | .str s => some (s = "resources")
  | .obj [(s, .null)] => some (s = "resources")
  | _ => none

def Jobs.ofJson? (v : Json) : Option Jobs :=
  match Json.record? ["jobs", "refetch"] v with
  | some [jobs, refetch] => do
    let jobs ← jobs.orDefault [] (Json.list? Job.Parameters.ofJson?)
    let targets ← refetch.nullable (Json.list? isResourcesTarget?)
    some ⟨jobs, (targets.getD []).any id⟩
  | _ => none

def jobs (timeout : Nat) (r : Request) (reply : Reply) : Except Error Jobs :=
  document timeout r reply Jobs.ofJson?

/-- What became of a submission. -/
inductive Submission
  | accepted
  /-- The resource has changed since. -/
  | preconditionFailed
  | rejected (status : Nat) (body : String)
  deriving DecidableEq, Repr

def submission (timeout : Nat) : Reply → Except Error Submission
  | .error failure => .error (failure.error timeout)
  | .ok response =>
    if response.status = 412 then .ok .preconditionFailed
    else if response.isSuccess then .ok .accepted
    else
      match response.body with
      | .ok body => .ok (.rejected response.status body)
      | .error _ => .ok (.rejected response.status "")

/-- A text of at most some characters; what is left out is marked by dots. -/
def truncate (body : String) (limit : Nat) : String :=
  if body.length ≤ limit then body
  else String.ofList (body.toList.take (limit - 3)) ++ "..."

end Harvest.Coordinator
