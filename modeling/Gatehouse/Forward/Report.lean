import Gatehouse.Forward.Decision
import Gatehouse.Forward.Request
import Gatehouse.Forward.Rules
import Gatehouse.Http.Document

/-!
# Reports

Delegated requests and what was decided about them, as JSON.
-/

namespace Gatehouse.Forward

open Json (Value orNull)

/-- The request as JSON. -/
def Request.toJson (r : Request) : Value :=
  .object [
    ("method", .string r.method),
    ("scheme", .string r.scheme),
    ("host", .string r.host),
    ("path", .string r.path),
    ("query", .string r.query),
    ("url", .string r.url),
    ("client_ip", orNull (fun a : Net.Address => .string a.text) r.client)]

/-- What the rules say, as JSON. -/
def Verdict.toJson : Verdict → Value
  | .deny => .string "deny"
  | .silent => .string "no_match"
  | .allow grant =>
    .object [("subject", .string grant.subject), ("roles", .strings grant.roles)]

/-- The decision as JSON. -/
def Decision.toJson : Decision → Value
  | .allow headers => .object [("allow", headers.toJson)]
  | .redirect location html cors =>
    .object [("redirect", .string location), ("html", .bool html), ("cors", cors.toJson)]
  | .deny status headers => .object [("deny", .int status), ("headers", headers.toJson)]
  | .error => .string "error"

end Gatehouse.Forward
