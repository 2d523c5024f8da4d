import Harvest.Job
import Harvest.Resource.Encode
/-!
Servers, jobs and results as JSON.
-/

namespace Harvest

open Resource (record)

def textsJson (texts : List String) : Json := .arr (texts.map .str)

def Autonomy.toJson (a : Autonomy) : Json := .str a.text

def Server.toJson (s : Server) : Json :=
  record [("id", .str s.id), ("name", .str s.name), ("url", .str s.url), ("token", .str s.token),
    ("autonomy", s.autonomy.toJson)]

def Job.Parameters.toJson (p : Job.Parameters) : Json :=
  record [("id", .str p.id), ("resource_id", .str p.resourceId), ("url", .str p.url),
    ("issued_at", .str p.issuedAt.text), ("expires_at", .str p.expiresAt.text)]

def Job.Source.toJson : Job.Source → Json
  | .active id => record [("kind", .str "active"), ("id", .str id)]
  | .passive => record [("kind", .str "passive")]

def ScrapedPage.toJson (p : ScrapedPage) : Json :=
  record [("resource_id", .str p.resourceId), ("payload", .obj p.payload),
    ("variables", .obj p.bindings), ("source", p.source.toJson),
    ("warnings", textsJson p.warnings)]

def JobResult.toJson : JobResult → Json
  | .success flag p =>
    record [("success", .bool flag), ("payload", .obj p.payload),
      ("resource_id", .str p.resourceId), ("variables", .obj p.bindings),
      ("job", p.source.toJson), ("warnings", textsJson p.warnings)]
  | .failure flag id source error =>
    record [("success", .bool flag), ("resource_id", .str id), ("source", source.toJson),
      ("error", .str error)]

end Harvest
