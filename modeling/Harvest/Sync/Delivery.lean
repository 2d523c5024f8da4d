import Harvest.Sync.Polling
/-!
Submitting results. A result goes to the first server that has its resource, under the version of
the resource that is known at that moment. When the version is out of date, the resources are
refreshed and the result is submitted again, a limited number of times.
-/

namespace Harvest.Sync.Client

/-- Submits a result once, unless its server is paused or has lost the resource. -/
def attempt (c : Client) (d : Delivery) : Client × Progress :=
  match c.entry? d.entry with
  | none => (c, .done)
  | some e =>
    let id := d.result.resourceId
    if e.status = .paused then (c.log (.submissionWhilePaused e.server id), .done)
    else
      match e.resource? id with
      | none => (c.log (.resourceDisappeared e.server id), .done)
      | some r =>
        match Coordinator.submitRequest c.settings.userAgent e.server r.hash d.result with
        | .error fault => (c.log (.submissionFailed e.server id fault), .done)
        | .ok request =>
          (c.send (.submission d.entry) request,
            .waiting (.submission d e.server r.hash request) [])

/-- Submits a result for the first time. -/
def submit (c : Client) (result : JobResult) : Client × Progress :=
  match c.owner? result.resourceId with
  | none => (c.log (.unknownSubmission result.resourceId), .done)
  | some entry => c.attempt ⟨entry, result, 1⟩

/-- Takes what became of a submission. -/
def delivered (c : Client) (d : Delivery) (server : Server) (hash : String)
    (outcome : Except Error Coordinator.Submission) (next : List Next) : Client × Course :=
  let id := d.result.resourceId
  match outcome with
  | .error fault => (c.log (.submissionFailed server id fault), .goesOn next)
  | .ok .accepted => (c.log (.submitted d.result.source id), .goesOn next)
  | .ok (.rejected status body) => (c.log (.submissionRejected id status body), .goesOn next)
  | .ok .preconditionFailed =>
    if d.attempt < c.settings.attempts then
      (c.log (.resubmitting id hash d.attempt),
        .goesOn (.refresh d.entry true :: .attempt { d with attempt := d.attempt + 1 } :: next))
    else
      let c := c.log (.attemptsExhausted id hash c.settings.attempts)
      (c.countError d.entry).pause d.entry next

/-- Asks for the page of a job. -/
def execute (c : Client) (job : Job) : Client × Progress :=
  match Fetch.request c.protection c.settings.userAgent job.url.text with
  | .error fault => c.submit (Executor.result job (.error fault))
  | .ok r => (c.send .page r, .waiting (.page job r) [])

end Harvest.Sync.Client
