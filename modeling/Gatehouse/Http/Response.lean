import Gatehouse.Http.Header
import Gatehouse.Json.Printer

/-!
# Responses

A response is a status, a header and a body of text.  Lines that the sender of a response wants in
the header take the place of those that come with the body.
-/

namespace Gatehouse.Http

/-- A response. -/
structure Response where
  status : Nat
  headers : Headers
  body : String
  deriving DecidableEq, Repr

namespace Response

/-- The header of a body of the given type. -/
def typed (contentType : String) : Headers :=
  Headers.empty.append "content-type" (utf8 contentType)

/-- A response without a body. -/
def empty (status : Nat) (headers : Headers) : Response :=
  ⟨status, headers, ""⟩

/-- A response with plain text. -/
def text (status : Nat) (headers : Headers) (body : String) : Response :=
  ⟨status, (typed "text/plain; charset=utf-8").extend headers, body⟩

/-- A response with a JSON document. -/
def json (status : Nat) (headers : Headers) (body : Json.Value) : Response :=
  ⟨status, (typed "application/json").extend headers, body.render⟩

/-- Does the status tell of success? -/
def isSuccess (r : Response) : Bool :=
  200 ≤ r.status && r.status < 300

end Response

end Gatehouse.Http
