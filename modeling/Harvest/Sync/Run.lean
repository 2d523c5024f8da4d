import Harvest.Sync.Delivery
/-!
How tasks go on. A task that is told what it waited for acts at once and goes on, up to its next
wait or its end.
-/

namespace Harvest.Sync

/-- What a waiting task is told. -/
inductive Signal
  /-- Its turn has come, or its time. -/
  | go
  | reply (r : Http.Reply)
  /-- What the host says. -/
  | permitted (answer : Except Error (List String))
  /-- Its token was cancelled. -/
  | cancelled

namespace Client

/-- Does one thing for a task. -/
def perform (c : Client) (task : TaskId) : Next → Client × Progress
  | .start id =>
    let (token, c) := c.beginStart id
    match c.acquire task id false with
    | (c, .done) => (c, .done)
    | (c, .waiting w next) => (c, .waiting w (next ++ [.started id token]))
  | .started id token =>
    if c.isCancelled token then (c, .done)
    else if c.settings.pollInterval = 0 then c.poll id
    else (c.spawn [.beginTimer id token]).poll id
  | .refresh id forced => c.acquire task id forced
  | .poll id => c.poll id
  | .enqueue serverId jobs => (c.enqueue serverId jobs, .done)
  | .submit result => c.submit result
  | .attempt d => c.attempt d
  | .execute job => c.execute job
  | .beginTimer id token =>
    let period := c.settings.pollInterval
    (c, .waiting (.tick id token ⟨period, c.now.clock + period⟩) [])
  | .timer id token ticker => (c, .waiting (.tick id token ticker) [])
  | .beginPause id token delay name =>
    (c, .waiting (.resume id token (c.now.clock + delay) name) [])
  | .beginDriver driver =>
    (c, .waiting (.drive driver ⟨tickPeriod, c.now.clock + tickPeriod⟩) [])

/-- Does one thing after the other for a task, up to a wait. -/
def run (task : TaskId) : List Next → Client → Client
  | [], c => c
  | n :: rest, c =>
    match c.perform task n with
    | (c, .done) => run task rest c
    | (c, .waiting w next) => c.suspend task w (next ++ rest)

/-- What a task does as soon as it is told something that it waits for, and what becomes of it.
    The task itself is not among those that wait any more. -/
def heed (c : Client) (t : Task) (s : Signal) : Option (Client × Course) :=
  let timeout := c.settings.requestTimeout
  match t.wait, s with
  | .turn, .go => some (c, .goesOn t.next)
  | .granted id forced, .go => some (c.refresh id forced t.next)
  | .resources id server r, .reply reply =>
    some (c.fetched id server (Coordinator.catalog timeout r reply), .goesOn t.next)
  | .permission id server, .permitted answer => some (c.permitted id server answer t.next)
  | .jobs id server r, .reply reply =>
    some (c.polled id server (Coordinator.jobs timeout r reply) t.next)
  | .submission d server hash _, .reply reply =>
    some (c.delivered d server hash (Coordinator.submission timeout reply) t.next)
  | .page job _, .reply reply =>
    let page := Fetch.document timeout job.url.text reply
    some (c, .goesOn (.submit (Executor.result job page) :: t.next))
  | .tick id token ticker, .go =>
    some (c, .goesOn (.poll id :: .timer id token (ticker.next c.now.clock) :: t.next))
  | .resume id _ _ name, .go => some (c.log (.restarting name), .goesOn (.start id :: t.next))
  | .drive driver ticker, .go =>
    let c := c.withQueue (c.queue.drive driver c.now.clock)
    if c.queue.driver = some driver then
      some (c, .waits (.drive driver (ticker.next c.now.clock)) t.next)
    else some (c, .ends)
  | .tick .., .cancelled => some (c, .ends)
  | .resume .., .cancelled => some (c, .ends)
  | _, _ => none

/-- Goes on with a task. -/
def follow (c : Client) (task : TaskId) : Course → Client
  | .goesOn next => run task next c
  | .waits w next => c.suspend task w next
  | .ends => c

/-- Tells a task what it waited for; what does not concern it changes nothing. -/
def wake (c : Client) (t : Task) (s : Signal) : Client :=
  match (c.dropTask t.id).heed t s with
  | some (d, course) => d.follow t.id course
  | none => c

/-! What the host asks for -/

/-- Registers a server; one with the same id is replaced. -/
def addServer (c : Client) (s : Server) : Client :=
  let id := c.entries.length
  let c := { c with entries := c.entries ++ [Entry.new s] }
  match c.registered? s.id with
  | none => { c with registry := c.registry ++ [(s.id, id)] }
  | some _ =>
    { c with registry := c.registry.map fun r => if r.1 = s.id then (s.id, id) else r }

/-- Changes the definition of a registered server. -/
def updateServer (c : Client) (s : Server) : Except Error Unit × Client :=
  match c.registered? s.id with
  | none => (.error (.config ("Unknown server " ++ s.id)), c.log (.unregisteredUpdate s))
  | some id => (.ok (), c.modifyEntry id fun e => { e with server := s })

/-- Has a new task do something at once. Its number is that of the tasks before it. -/
def undertake (c : Client) (next : List Next) : Client :=
  run c.taskCount next { c with taskCount := c.taskCount + 1 }

/-- Starts the queue, with a driver if it was not running. -/
def startQueue (c : Client) : Client :=
  let q := c.queue.start c.now.clock
  let c := if c.queue.isRunning then c else c.spawn [.beginDriver c.queue.drivers]
  c.withQueue q

/-- What starts every registered server, one after the other. -/
def startServers (c : Client) : List Next := c.registry.map fun r => .start r.2

def startAll (c : Client) : Client := c.startQueue.undertake c.startServers

/-- What starts a registered server. -/
def startPlan (c : Client) (serverId : String) : Except Error (List Next) :=
  match c.registered? serverId with
  | none => .error (.config ("Unknown server " ++ serverId))
  | some id => .ok [.start id]

def start (c : Client) (serverId : String) : Except Error Client :=
  (c.startPlan serverId).map c.undertake

def stop (c : Client) (serverId : String) : Client :=
  match c.registered? serverId with
  | none => c
  | some id => c.stopEntry id

def stopEntries : List EntryId → Client → Client
  | [], c => c
  | id :: rest, c => stopEntries rest (c.stopEntry id)

/-- Stops the queue and every registered server. -/
def stopAll (c : Client) : Client :=
  stopEntries (c.registry.map (·.2)) { c with queue := c.queue.stop }

def submitResult (c : Client) (r : JobResult) : Client := c.undertake [.submit r]

/-- The resources of every registered server. -/
def allResources (c : Client) : List Resource := c.ordered.flatMap (·.resources)

end Client
end Harvest.Sync
