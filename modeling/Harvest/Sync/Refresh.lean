import Harvest.Sync.Client
/-!
Refreshing the resources of a server. One task at a time has the right to; whether a refresh is
due is judged once it has the right, so that nothing is fetched twice in a row.
-/

namespace Harvest.Sync

/-- How far a task has come: through with what it did, or up to a wait, with something to do
    after it. -/
inductive Progress
  | done
  | waiting (w : Wait) (next : List Next)

/-- What becomes of a task that was told what it waited for. -/
inductive Course
  | goesOn (next : List Next)
  | waits (w : Wait) (next : List Next)
  | ends

namespace Client

/-- Asks for the right to refresh an entry. -/
def acquire (c : Client) (task : TaskId) (id : EntryId) (forced : Bool) : Client × Progress :=
  match c.entry? id with
  | none => (c, .done)
  | some e =>
    if e.refresh.held then
      (c.modifyEntry id fun e => { e with refresh := ⟨true, e.refresh.waiting ++ [task]⟩ },
        .waiting (.lock id forced) [])
    else
      (c.modifyEntry id fun e => { e with refresh := ⟨true, e.refresh.waiting⟩ },
        .waiting (.granted id forced) [])

/-- Tells a task that it has the right that it waited for. -/
def grant (c : Client) (task : TaskId) : Client :=
  match c.task? task with
  | some ⟨_, .lock id forced, next⟩ => (c.dropTask task).suspend task (.granted id forced) next
  | _ => c

/-- Gives the right to refresh to the task that has waited longest, or back. -/
def release (c : Client) (id : EntryId) : Client :=
  match (c.entry? id).map (·.refresh.waiting) with
  | none => c
  | some [] => c.modifyEntry id fun e => { e with refresh := ⟨false, []⟩ }
  | some (task :: rest) =>
    (c.modifyEntry id fun e => { e with refresh := ⟨true, rest⟩ }).grant task

/-- The end of the last fetch of resources, while it is too recent for another one. -/
def recentFetch? (c : Client) (e : Entry) : Option Moment :=
  match e.lastFetch with
  | none => none
  | some m =>
    if c.now.clock - m.clock < c.settings.refreshInterval then some m else none

/-- Takes what came of a fetch of resources. -/
def fetched (c : Client) (id : EntryId) (server : Server)
    (result : Except Error Resource.Catalog) : Client :=
  match result with
  | .ok catalog =>
    let c := c.modifyEntry id fun e =>
      { e with lastFetch := some c.now, resources := catalog.resources }
    (c.emit (.updatedResources server catalog.resources)).release id
  | .error e =>
    let c := c.modifyEntry id fun e => { e with lastFetch := some c.now }
    (c.log (.refreshFailed server e)).release id

/-- Refreshes an entry, by a task that has the right to. Unless it is forced, a refresh soon
    after the last one is only told to the host. -/
def refresh (c : Client) (id : EntryId) (forced : Bool) (next : List Next) : Client × Course :=
  match c.entry? id with
  | none => (c, .goesOn next)
  | some e =>
    match if forced then none else c.recentFetch? e with
    | some last => ((c.emit (.resourceRateLimit e.server last)).release id, .goesOn next)
    | none =>
      match Coordinator.resourcesRequest c.settings.userAgent e.server with
      | .error fault => (c.fetched id e.server (.error fault), .goesOn next)
      | .ok r => (c.send (.resources id) r, .waits (.resources id e.server r) next)

end Client
end Harvest.Sync
