import Harvest.Sync.Basic
/-!
What a client writes to its log, by cause.
-/

namespace Harvest.Sync

inductive Severity
  | info
  | warning
  | error
  deriving DecidableEq, Repr

def Severity.text : Severity → String
  | .info => "info"
  | .warning => "warning"
  | .error => "error"

inductive Notice
  | unregisteredUpdate (server : Server)
  | pausing (server : Server) (delay : Nat)
  | restarting (name : String)
  | refreshFailed (server : Server) (e : Error)
  | pollFailed (server : Server) (e : Error) (count : Nat)
  /-- A server says that its resources have changed. -/
  | refetchRequested (server : Server)
  | expiredJob (p : Job.Parameters)
  | unknownServer (jobId serverId : String)
  | unknownResource (server : Server) (p : Job.Parameters)
  | passiveServer (server : Server) (jobId : String)
  | rejectedJob (server : Server) (jobId : String) (e : Error)
  | unknownSubmission (resourceId : String)
  | submissionWhilePaused (server : Server) (resourceId : String)
  | resourceDisappeared (server : Server) (resourceId : String)
  | submitted (source : Job.Source) (resourceId : String)
  | resubmitting (resourceId hash : String) (attempt : Nat)
  | attemptsExhausted (resourceId hash : String) (attempts : Nat)
  | submissionRejected (resourceId : String) (status : Nat) (body : String)
  | submissionFailed (server : Server) (resourceId : String) (e : Error)

namespace Notice

def severity : Notice → Severity
  | pausing .. => .warning
  | restarting _ => .info
  | refetchRequested _ => .info
  | expiredJob _ => .warning
  | passiveServer .. => .warning
  | submissionWhilePaused .. => .warning
  | submitted .. => .info
  | resubmitting .. => .warning
  | _ => .error

def kindOf : Job.Source → String
  | .active _ => "active"
  | .passive => "passive"

def text : Notice → String
  | unregisteredUpdate _ => "Tried to update a server that is not registered"
  | pausing s delay =>
    "Pausing server " ++ s.name ++ " for " ++ toString (delay / 1000) ++
      "s after repeated errors"
  | restarting name => "Restarting polling of " ++ name
  | refreshFailed s e => "Error updating resources of " ++ s.name ++ ": " ++ e.message
  | pollFailed s e _ => "Error polling for new jobs: " ++ s.name ++ " " ++ e.message
  | refetchRequested _ => "The server requested a refetch because the resources have changed"
  | expiredJob p => "Dropping expired job " ++ p.id
  | unknownServer job server => "Job " ++ job ++ " belongs to unknown server " ++ server
  | unknownResource _ p => "Could not find resource " ++ p.resourceId
  | passiveServer s _ =>
    "Ignoring job request from " ++ s.url ++ " because the server is in passive mode"
  | rejectedJob _ job e => "Rejected job " ++ job ++ ": " ++ e.message
  | unknownSubmission id => "Could not find resource " ++ id
  | submissionWhilePaused s id =>
    "Dropping submission for " ++ id ++ ", " ++ s.name ++ " is paused"
  | resourceDisappeared _ id => "Resource " ++ id ++ " disappeared while submitting"
  | submitted source id => "Successfully submitted (" ++ kindOf source ++ ") job " ++ id
  | resubmitting .. =>
    "Failed job precondition while submitting. Trying to refresh and re-submit..."
  | attemptsExhausted _ _ n =>
    "Failed job precondition " ++ toString n ++
      " times while submitting, giving up and pausing"
  | submissionRejected id _ _ => "Failed to submit job for resource: " ++ id
  | submissionFailed _ id e =>
    "Failed to submit job for resource: " ++ id ++ ": " ++ e.message

/-- Bodies of answers are logged up to this many characters. -/
def maxLoggedBody : Nat := 1000

open Resource (record)

def data : Notice → Option Json
  | unregisteredUpdate s => some (record [("server", .str s.id), ("url", .str s.url)])
  | pausing s delay =>
    some (record [("server", .str s.id), ("delay_secs", Json.nat (delay / 1000))])
  | restarting _ => none
  | refreshFailed s e => some (record [("server", .str s.id), ("message", .str e.message)])
  | pollFailed s e n =>
    some (record [("server", .str s.id), ("message", .str e.message),
      ("error_count", Json.nat n)])
  | refetchRequested s => some (record [("server", .str s.id)])
  | expiredJob p =>
    some (record [("job_id", .str p.id), ("expires_at", .str p.expiresAt.text)])
  | unknownServer .. => none
  | unknownResource s p => some (record [("server", .str s.id), ("job_id", .str p.id)])
  | passiveServer s job => some (record [("server", .str s.id), ("job_id", .str job)])
  | rejectedJob s job _ => some (record [("server", .str s.id), ("job_id", .str job)])
  | unknownSubmission _ => none
  | submissionWhilePaused s id =>
    some (record [("server", .str s.id), ("resource_id", .str id)])
  | resourceDisappeared s _ => some (record [("server", .str s.id)])
  | submitted .. => none
  | resubmitting id hash n =>
    some (record [("resource_id", .str id), ("hash", .str hash), ("attempt", Json.nat n)])
  | attemptsExhausted id hash n =>
    some (record [("resource_id", .str id), ("hash", .str hash), ("attempts", Json.nat n)])
  | submissionRejected _ status body =>
    some (record [("status", Json.nat status),
      ("response", .str (Coordinator.truncate body maxLoggedBody))])
  | submissionFailed s _ e =>
    some (record [("server", .str s.id), ("message", .str e.message)])

end Notice
end Harvest.Sync
