import Gatehouse.Store.Action
import Gatehouse.Token.Issuer

/-!
# Errors of requests

What a request that fails is told.  Details of internal errors are not told to anybody.

Main definitions: `Error`, its `message`, `code` and `status`, and `Error.body`.
-/

namespace Gatehouse.Access

/-- Why a request fails. -/
inductive Error where
  | unauthenticated
  /-- The token is genuine and no longer good. -/
  | expired
  | permissionDenied (detail : String)
  | notFound (detail : String)
  | invalidArgument (detail : String)
  | internal (detail : String)
  deriving DecidableEq, Repr

namespace Error

/-- The full wording. -/
def message : Error → String
  | .unauthenticated => "unauthenticated"
  | .expired => "token expired"
  | .permissionDenied detail => "permission denied: " ++ detail
  | .notFound detail => "not found: " ++ detail
  | .invalidArgument detail => "invalid argument: " ++ detail
  | .internal detail => "internal error: " ++ detail

/-- The name by which programs tell errors apart. -/
def code : Error → String
  | .unauthenticated => "unauthenticated"
  | .expired => "expired"
  | .permissionDenied _ => "permission_denied"
  | .notFound _ => "not_found"
  | .invalidArgument _ => "invalid_argument"
  | .internal _ => "internal"

/-- The HTTP status. -/
def status : Error → Nat
  | .unauthenticated | .expired => 401
  | .permissionDenied _ => 403
  | .notFound _ => 404
  | .invalidArgument _ => 400
  | .internal _ => 500

/-- The wording that the client is told. -/
def toldMessage : Error → String
  | .unauthenticated => Error.unauthenticated.message
  | .expired => Error.expired.message
  | .permissionDenied detail | .notFound detail | .invalidArgument detail => detail
  | .internal _ => "internal error"

/-- What the client is told. -/
def body (e : Error) : Json.Value :=
  .object [("code", .string e.code), ("message", .string e.toldMessage)]

/-- An internal error with a cause. -/
def because (context cause : String) : Error :=
  .internal (context ++ ": " ++ cause)

/-- The error for a store that does not answer. -/
def ofStore (f : Store.Failure) : Error :=
  if f.isNotFound then .notFound "record not found" else .internal f.message

/-- The error for a token that is not accepted or cannot be made. -/
def ofToken (e : Token.Error) : Error :=
  match e with
  | .expired => .expired
  | .missingSecret | .unencodable _ => .internal e.message
  | .unsupportedAlgorithm _ | .notYetValid | .invalidSignature | .malformed _ => .unauthenticated

/-- The error for a token that cannot be issued. -/
def ofIssue (e : Token.IssueError) : Error :=
  .internal e.message

end Error

end Gatehouse.Access
