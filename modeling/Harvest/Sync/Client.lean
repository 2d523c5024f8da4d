import Harvest.Executor
import Harvest.Fetch
import Harvest.Sync.Notice
/-!
The state of a client. What goes on at the same time is a list of tasks; each of them waits for
something and knows what it does next. A task runs from one wait to the next without being
disturbed.
-/

namespace Harvest.Sync

/-- A result on its way to the server that issued its resource. -/
structure Delivery where
  entry : EntryId
  result : JobResult
  /-- How often it is submitted, this time included. -/
  attempt : Nat

/-- What a task waits for. -/
inductive Wait
  /-- Its turn to begin. -/
  | turn
  /-- The right to refresh an entry, which another task has. -/
  | lock (entry : EntryId) (forced : Bool)
  /-- Its turn to refresh; it has the right to. -/
  | granted (entry : EntryId) (forced : Bool)
  /-- The resources of a server. -/
  | resources (entry : EntryId) (server : Server) (request : Http.Request)
  /-- The host, which says what a server may issue jobs for. -/
  | permission (entry : EntryId) (server : Server)
  /-- The answer to a poll. -/
  | jobs (entry : EntryId) (server : Server) (request : Http.Request)
  /-- What becomes of a submission under a version of the resource. -/
  | submission (d : Delivery) (server : Server) (hash : String) (request : Http.Request)
  /-- The page of a job. -/
  | page (job : Job) (request : Http.Request)
  /-- The next tick of a poll timer. -/
  | tick (entry : EntryId) (token : Token) (ticker : Ticker)
  /-- The end of a pause. -/
  | resume (entry : EntryId) (token : Token) (due : Nat) (name : String)
  /-- The next tick of a driver of the queue. -/
  | drive (driver : Nat) (ticker : Ticker)

/-- The request whose reply is waited for. -/
def Wait.request? : Wait → Option Http.Request
  | .resources _ _ r => some r
  | .jobs _ _ r => some r
  | .submission _ _ _ r => some r
  | .page _ r => some r
  | _ => none

/-- What a task does next. -/
inductive Next
  /-- Starts a server. -/
  | start (entry : EntryId)
  /-- Goes on with a start after the refresh, unless it was overtaken. -/
  | started (entry : EntryId) (token : Token)
  | refresh (entry : EntryId) (forced : Bool)
  | poll (entry : EntryId)
  | enqueue (serverId : String) (jobs : List Job.Parameters)
  | submit (result : JobResult)
  | attempt (d : Delivery)
  /-- Fetches the page of a job and submits the result. -/
  | execute (job : Job)
  | beginTimer (entry : EntryId) (token : Token)
  | timer (entry : EntryId) (token : Token) (ticker : Ticker)
  | beginPause (entry : EntryId) (token : Token) (delay : Nat) (name : String)
  | beginDriver (driver : Nat)

structure Task where
  id : TaskId
  wait : Wait
  next : List Next

/-- What a request is sent for. -/
inductive Purpose
  | resources (entry : EntryId)
  | jobs (entry : EntryId)
  | submission (entry : EntryId)
  | page
  deriving DecidableEq, Repr

/-- What can be seen of a client from outside. -/
inductive Sign
  | sent (purpose : Purpose) (request : Http.Request)
  | event (e : Event)
  | notice (n : Notice)

structure Client where
  settings : Settings
  /-- The resources that a server may issue jobs for, where the host has them at hand. -/
  allowed : Server → Except Error (List String)
  protection : Fetch.Protection
  now : Moment
  /-- Every entry that was ever made, by its number. -/
  entries : List Entry
  /-- The entries of the registered servers, in the order of their first registration. -/
  registry : List (String × EntryId)
  queue : JobQueue Queued
  tasks : List Task
  /-- The number of tasks so far. -/
  taskCount : Nat
  /-- The entries that tokens were made for; a token is the number of its place. -/
  issued : List EntryId
  cancelled : List Token
  /-- What was to be seen so far, with its instant. -/
  signs : List (Nat × Sign)

namespace Client

/-- A client without servers, if it can run with its settings. -/
def new (settings : Settings) (allowed : Server → Except Error (List String))
    (protection : Fetch.Protection) (now : Moment) : Except Error Client :=
  settings.validate.map fun s =>
    ⟨s, allowed, protection, now, [], [], .empty s.queueInterval, [], 0, [], [], []⟩

/-! Entries -/

def entry? (c : Client) (id : EntryId) : Option Entry := c.entries[id]?

def modifyEntry (c : Client) (id : EntryId) (f : Entry → Entry) : Client :=
  { c with entries := c.entries.modify id f }

def registered? (c : Client) (serverId : String) : Option EntryId := c.registry.lookup serverId

def ordered (c : Client) : List Entry := c.registry.filterMap fun r => c.entry? r.2

/-- The first registered server that has a resource. -/
def owner? (c : Client) (resourceId : String) : Option EntryId :=
  (c.registry.map (·.2)).find? fun id =>
    ((c.entry? id).bind fun e => e.resource? resourceId).isSome

/-! Signs -/

def reveal (c : Client) (s : Sign) : Client :=
  { c with signs := c.signs ++ [(c.now.clock, s)] }

def emit (c : Client) (e : Event) : Client := c.reveal (.event e)

def log (c : Client) (n : Notice) : Client := c.reveal (.notice n)

def send (c : Client) (p : Purpose) (r : Http.Request) : Client := c.reveal (.sent p r)

/-! Tokens -/

def isCancelled (c : Client) (t : Token) : Bool := c.cancelled.contains t

def cancel (c : Client) (t : Option Token) : Client :=
  { c with cancelled := c.cancelled ++ t.toList }

def token (c : Client) (id : EntryId) : Token × Client :=
  (c.issued.length, { c with issued := c.issued ++ [id] })

/-! Tasks -/

/-- Adds a task, which waits for its turn. -/
def spawn (c : Client) (next : List Next) : Client :=
  { c with tasks := c.tasks ++ [⟨c.taskCount, .turn, next⟩], taskCount := c.taskCount + 1 }

/-- Has a task wait. -/
def suspend (c : Client) (task : TaskId) (w : Wait) (next : List Next) : Client :=
  { c with tasks := c.tasks ++ [⟨task, w, next⟩] }

def task? (c : Client) (id : TaskId) : Option Task := c.tasks.find? fun t => t.id = id

def dropTask (c : Client) (id : TaskId) : Client :=
  { c with tasks := c.tasks.filter fun t => t.id ≠ id }

end Client
end Harvest.Sync
