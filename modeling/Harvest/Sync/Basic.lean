import Harvest.Coordinator
import Harvest.Queue
import Harvest.Settings
import Harvest.Ticker
/-!
A client that keeps in step with its coordinators: what it knows of every registered server, and
what it tells its host. A server that is registered again gets a new entry; the old one stays
behind with whatever is still going on for it.
-/

namespace Harvest.Sync

/-- An instant, on the clock that measures durations and in the calendar. -/
structure Moment where
  clock : Nat
  date : Timestamp
  deriving DecidableEq, Repr

inductive Status
  | idle
  | polling
  /-- Stopped after repeated errors, to be started again. -/
  | paused
  deriving DecidableEq, Repr

def Status.text : Status → String
  | .idle => "idle"
  | .polling => "polling"
  | .paused => "paused"

/-- The number of an entry of the registry. -/
abbrev EntryId := Nat

/-- What a timer holds to learn that it is no longer wanted. -/
abbrev Token := Nat

/-- The number of a task. -/
abbrev TaskId := Nat

/-- The right to do something alone; those who wait for it get it in their order. -/
structure Lock where
  held : Bool
  waiting : List TaskId
  deriving DecidableEq, Repr

/-- A registered server. -/
structure Entry where
  server : Server
  /-- The resources as they were fetched last. -/
  resources : List Resource
  /-- When the last fetch of resources ended, in whatever way. -/
  lastFetch : Option Moment
  errors : Nat
  pollToken : Option Token
  resumeToken : Option Token
  status : Status
  /-- The right to refresh the resources. -/
  refresh : Lock

def Entry.new (s : Server) : Entry :=
  ⟨s, [], none, 0, none, none, .idle, ⟨false, []⟩⟩

def Entry.resource? (e : Entry) (id : String) : Option Resource :=
  e.resources.find? fun r => r.id = id

/-- A job that waits in the queue, with the server that issued it. -/
structure Queued where
  serverId : String
  parameters : Job.Parameters
  deriving DecidableEq, Repr

/-- What the host is told. -/
inductive Event
  | runJob (job : Job)
  | updatedResources (server : Server) (resources : List Resource)
  | polled (server : Server) (jobs : List Job.Parameters)
  /-- A refresh was left out, for the last one is too recent. -/
  | resourceRateLimit (server : Server) (lastFetch : Moment)
  /-- A passive server issued a job. -/
  | insufficientAutonomy (server : Server) (resource : Resource)

end Harvest.Sync
