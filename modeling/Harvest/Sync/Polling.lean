import Harvest.Sync.Refresh
/-!
Polling servers for jobs. A server is started, stopped, and paused after repeated errors; each
time the timers from before lose their tokens. The jobs of a poll go through the queue and are
judged when they leave it, by what is known of their server then.
-/

namespace Harvest.Sync.Client

/-- Begins the start of a server: it polls from now on, under a new token. -/
def beginStart (c : Client) (id : EntryId) : Token × Client :=
  let e := c.entry? id
  let (token, c) := c.token id
  let c := (c.cancel (e.bind (·.pollToken))).cancel (e.bind (·.resumeToken))
  (token, c.modifyEntry id fun e =>
    { e with pollToken := some token, resumeToken := none, status := .polling })

/-- Stops a server. Its resources and its errors are kept. -/
def stopEntry (c : Client) (id : EntryId) : Client :=
  let e := c.entry? id
  let c := (c.cancel (e.bind (·.pollToken))).cancel (e.bind (·.resumeToken))
  c.modifyEntry id fun e => { e with pollToken := none, resumeToken := none, status := .idle }

/-- Stops a server and has it started again after a delay that grows with its errors. Where the
    delay exceeds every delay, the task ends there: nothing starts the server again. -/
def pause (c : Client) (id : EntryId) (next : List Next) : Client × Course :=
  let c := c.stopEntry id
  let (token, c) := c.token id
  let c := c.modifyEntry id fun e => { e with status := .paused, resumeToken := some token }
  match c.entry? id with
  | none => (c, .goesOn next)
  | some e =>
    match c.settings.resumeDelay? e.errors with
    | none => (c, .ends)
    | some delay =>
      ((c.log (.pausing e.server delay)).spawn [.beginPause id token delay e.server.name],
        .goesOn next)

def countError (c : Client) (id : EntryId) : Client :=
  c.modifyEntry id fun e => { e with errors := e.errors + 1 }

/-- Counts a poll that failed. Every so many errors pause the server. -/
def pollFailed (c : Client) (id : EntryId) (server : Server) (fault : Error)
    (next : List Next) : Client × Course :=
  let c := c.countError id
  let count := ((c.entry? id).map (·.errors)).getD 0
  let c := c.log (.pollFailed server fault count)
  if count % c.settings.pauseThreshold = 0 then c.pause id next else (c, .goesOn next)

/-- Polls a server. The host is asked first what the server may issue jobs for. -/
def poll (c : Client) (id : EntryId) : Client × Progress :=
  match c.entry? id with
  | none => (c, .done)
  | some e => (c, .waiting (.permission id e.server) [])

/-- Takes the answer of the host and sends the request for jobs. -/
def permitted (c : Client) (id : EntryId) (server : Server)
    (answer : Except Error (List String)) (next : List Next) : Client × Course :=
  match answer.bind (Coordinator.jobsRequest c.settings.userAgent server) with
  | .error fault => c.pollFailed id server fault next
  | .ok r => (c.send (.jobs id) r, .waits (.jobs id server r) next)

/-- Takes the answer to a poll. A refresh that the server asks for comes before its jobs. -/
def polled (c : Client) (id : EntryId) (server : Server)
    (answer : Except Error Coordinator.Jobs) (next : List Next) : Client × Course :=
  match answer with
  | .error fault => c.pollFailed id server fault next
  | .ok a =>
    let c := c.emit (.polled server a.jobs)
    if a.wantsResources then
      (c.log (.refetchRequested server),
        .goesOn (.refresh id true :: .enqueue server.id a.jobs :: next))
    else (c, .goesOn (.enqueue server.id a.jobs :: next))

/-- Judges a job of a registered server as it leaves the queue. -/
def judge (c : Client) (id : EntryId) (e : Entry) (p : Job.Parameters) : Client :=
  match e.resource? p.resourceId with
  | none => (c.log (.unknownResource e.server p)).spawn [.refresh id false]
  | some r =>
    match e.server.autonomy with
    | .passive =>
      (c.log (.passiveServer e.server p.id)).emit (.insufficientAutonomy e.server r)
    | .active =>
      match Job.make p r e.server.autonomy with
      | .ok job => c.emit (.runJob job)
      | .error fault =>
        (c.log (.rejectedJob e.server p.id fault)).spawn [.refresh id false]

/-- Turns a job that leaves the queue into an event, unless something speaks against it. -/
def dispatch (c : Client) (q : Queued) : Client :=
  if q.parameters.isExpired c.now.date then c.log (.expiredJob q.parameters)
  else
    match (c.registered? q.serverId).bind fun id => (c.entry? id).map fun e => (id, e) with
    | none => c.log (.unknownServer q.parameters.id q.serverId)
    | some (id, e) => c.judge id e q.parameters

/-- Takes what an operation of the queue leaves. -/
def withQueue (c : Client) (q : JobQueue Queued × Option Queued) : Client :=
  let c := { c with queue := q.1 }
  match q.2 with
  | none => c
  | some job => c.dispatch job

/-- Puts jobs of a server into the queue. -/
def enqueue (c : Client) (serverId : String) : List Job.Parameters → Client
  | [] => c
  | p :: rest =>
    (c.withQueue (c.queue.add c.now.clock ⟨serverId, p⟩)).enqueue serverId rest

end Harvest.Sync.Client
