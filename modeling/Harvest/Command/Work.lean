import Harvest.Command.Basic
import Harvest.Json.Writer
import Harvest.Page.Scrape
import Harvest.Sync.Run
/-!
What the commands do, apart from reading files and reaching the network.
-/

namespace Harvest.Command

inductive Failure
  | error (e : Error)
  | other (message : String)

def Failure.message : Failure → String
  | .error e => e.message
  | .other m => m

def protection (allowPrivate : Bool) : Fetch.Protection :=
  if allowPrivate then .any else .publicOnly

/-- Harvests a page with the first resource that applies to it. -/
def extractPage (url html : String) (resources : List Resource) : Except Failure ScrapedPage :=
  match Page.parse url html with
  | .error e => .error (.error e)
  | .ok page =>
    match page.check resources with
    | .matched r bindings => .ok (page.scrape r bindings .passive)
    | .fail reason => .error (.other (url ++ ": " ++ reason.text))

def printed (p : ScrapedPage) : String := p.toJson.pretty

/-- The client of a worker, which knows its coordinator. -/
def prepare (server : Server) (resources : List String) (allowPrivate : Bool)
    (lookup : String → Option String) (now : Sync.Moment) : Except Failure Sync.Client :=
  match Url.parse server.url with
  | .error _ => .error (.other ("Invalid server URL: " ++ server.url))
  | .ok _ =>
    let made := (Settings.ofEnvironment lookup).bind fun settings =>
      Sync.Client.new settings (fun _ => .ok resources) (protection allowPrivate) now
    match made with
    | .error e => .error (.error e)
    | .ok client => .ok (client.addServer server)

end Harvest.Command
