import Gatehouse.Http.Response

/-!
# Decisions

What the proxy is told about a delegated request.  A proxy lets a request through when the status
of the response tells of success, and hands the lines of the header on.

Main definitions: `Decision` and `Decision.response`.
-/

namespace Gatehouse.Forward

open Http (Headers Response)

/-- What becomes of a delegated request. -/
inductive Decision where
  | allow (headers : Headers)
  /-- The user has to go somewhere first; `html` says whether the client follows redirects. -/
  | redirect (location : String) (html : Bool) (cors : Headers)
  | deny (status : Nat) (headers : Headers)
  /-- No decision could be made. -/
  | error
  deriving DecidableEq, Repr

/-- The body of a denial. -/
def denialText : String := "not allowed"

/-- The response that tells the proxy. -/
def Decision.response : Decision → Response
  | .allow headers => .empty 200 headers
  | .redirect location true cors =>
    match Http.fieldValue? (utf8 location) with
    | some value => .empty 302 (cors.put "location" value)
    | none => .text 403 cors denialText
  | .redirect location false cors => .json 403 cors (.object [("location", .string location)])
  | .deny status headers => .text status headers denialText
  | .error => .empty 500 .empty

end Gatehouse.Forward
