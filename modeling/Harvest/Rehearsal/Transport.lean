import Harvest.Coordinator
import Harvest.Fetch
/-!
A transport that follows a script. For each endpoint the script has the replies to the requests in
their order, the last of them for all that follow; an endpoint without replies is not found.
-/

namespace Harvest.Rehearsal

/-- A reply, and how long it takes. -/
structure Scripted where
  delay : Nat
  reply : Http.Reply

/-- Replies by endpoint. -/
abbrev Script := List (String × List Scripted)

/-- The name of an endpoint in a script. -/
def endpointOf (r : Http.Request) : String :=
  r.method.text ++ " " ++ { r.url with query := none, fragment := none }.text

def notFound : Scripted := ⟨0, .ok ⟨404, none, .ok ""⟩⟩

/-- The next reply of an endpoint, and the script after it. -/
def Script.next (key : String) : Script → Scripted × Script
  | [] => (notFound, [])
  | (k, replies) :: rest =>
    if k = key then
      match replies with
      | [] => (notFound, (k, []) :: rest)
      | [last] => (last, (k, [last]) :: rest)
      | first :: more => (first, (k, more) :: rest)
    else
      let (reply, rest) := next key rest
      (reply, (k, replies) :: rest)

/-- The script with other replies for some endpoints. -/
def Script.replace (s replacement : Script) : Script :=
  s.filter (fun e => (replacement.lookup e.1).isNone) ++ replacement

/-- A reply within the time that requests have. -/
def Scripted.within (timeout : Nat) (s : Scripted) : Scripted :=
  if s.delay < timeout then s else ⟨timeout, .error .timeout⟩

/-- What comes of a request. Only web addresses are reached at all. -/
def Script.answer (timeout : Nat) (r : Http.Request) (s : Script) : Scripted × Script :=
  if Fetch.isWeb r.url then
    let (scripted, s) := s.next (endpointOf r)
    (scripted.within timeout, s)
  else (⟨0, .error (.other ("builder error for url (" ++ r.url.text ++ ")"))⟩, s)

/-- A request, and when it was sent. -/
structure Sent where
  time : Nat
  request : Http.Request

/-- Exchanges one after the other. -/
structure Session where
  now : Nat
  script : Script
  sent : List Sent

namespace Session

/-- Sends a request, if there is one, and waits for the reply. -/
def exchange (s : Session) (timeout : Nat) (request : Except Error Http.Request)
    (read : Http.Request → Http.Reply → Except Error α) : Except Error α × Session :=
  match request with
  | .error e => (.error e, s)
  | .ok r =>
    let (scripted, script) := s.script.answer timeout r
    let sent := if Fetch.isWeb r.url then s.sent ++ [⟨s.now, r⟩] else s.sent
    (read r scripted.reply, ⟨s.now + scripted.delay, script, sent⟩)

/-- Fetches a page. -/
def fetch (s : Session) (settings : Settings) (protection : Fetch.Protection) (url : String) :
    Except Error String × Session :=
  s.exchange settings.requestTimeout (Fetch.request protection settings.userAgent url)
    fun _ reply => Fetch.document settings.requestTimeout url reply

end Session
end Harvest.Rehearsal
