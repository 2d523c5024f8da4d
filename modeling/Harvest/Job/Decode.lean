import Harvest.Job
import Harvest.Resource.Decode
/-!
Servers, jobs and results read from JSON. A result is a success if it has the members of one, and
else a failure, whatever its flag says.
-/

namespace Harvest

open Json

def Autonomy.ofJson? (v : Json) : Option Autonomy :=
  match choice? ["passive", "active"] v with
  | some 0 => some .passive
  | some _ => some .active
  | none => none

def Server.ofJson? (v : Json) : Option Server :=
  match record? ["id", "name", "url", "token", "autonomy"] v with
  | some [id, name, url, token, autonomy] => do
    let id ← id.required string?
    let name ← name.required string?
    let url ← url.required string?
    let token ← token.required string?
    some ⟨id, name, url, token, ← autonomy.required Autonomy.ofJson?⟩
  | _ => none

def Timestamp.ofJson? : Json → Option Timestamp
  | .str s => Timestamp.parse? s
  | _ => none

def Job.Parameters.ofJson? (v : Json) : Option Job.Parameters :=
  match record? ["id", "resource_id", "url", "issued_at", "expires_at"] v with
  | some [id, resourceId, url, issued, expires] => do
    let id ← id.required string?
    let resourceId ← resourceId.required string?
    let url ← url.required string?
    let issued ← issued.required Timestamp.ofJson?
    some ⟨id, resourceId, url, issued, ← expires.required Timestamp.ofJson?⟩
  | _ => none

def Job.Source.ofJson? (nesting : Nesting) (v : Json) : Option Job.Source := do
  let (kind, content) ← tagged? v
  match ← kind.index? nesting ["active", "passive"] with
  | some 0 =>
    match record? ["id"] content with
    | some [id] => some (.active (← id.required string?))
    | _ => none
  | some _ => if Resource.isUnused content then some .passive else none
  | none => none

/-- An object, with the last of repeated members. -/
def payload? (v : Json) : Option Members := object? v.canonical

def ScrapedPage.ofJson? (nesting : Nesting) (v : Json) : Option ScrapedPage :=
  match record? ["resource_id", "payload", "variables", "source", "warnings"] v with
  | some [resourceId, payload, bindings, source, warnings] => do
    let resourceId ← resourceId.required string?
    let payload ← payload.required payload?
    let bindings ← bindings.required payload?
    let source ← source.required (Job.Source.ofJson? nesting)
    some ⟨resourceId, payload, bindings, source, ← warnings.orDefault [] Resource.texts?⟩
  | _ => none

def JobResult.successOf? (v : Json) : Option JobResult :=
  match record? ["success", "payload", "resource_id", "variables", "job", "warnings"] v with
  | some [flag, payload, resourceId, bindings, job, warnings] => do
    let flag ← flag.required bool?
    let payload ← payload.required payload?
    let resourceId ← resourceId.required string?
    let bindings ← bindings.required payload?
    let source ← job.required (Job.Source.ofJson? .inner)
    let warnings ← warnings.orDefault [] Resource.texts?
    some (.success flag ⟨resourceId, payload, bindings, source, warnings⟩)
  | _ => none

def JobResult.failureOf? (v : Json) : Option JobResult :=
  match record? ["success", "resource_id", "source", "error"] v with
  | some [flag, resourceId, source, error] => do
    let flag ← flag.required bool?
    let resourceId ← resourceId.required string?
    let source ← source.required (Job.Source.ofJson? .inner)
    some (.failure flag resourceId source (← error.required string?))
  | _ => none

def JobResult.ofJson? (v : Json) : Option JobResult :=
  match JobResult.successOf? v with
  | some r => some r
  | none => JobResult.failureOf? v

end Harvest
