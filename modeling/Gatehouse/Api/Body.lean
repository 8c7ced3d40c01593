import Gatehouse.Access.Login
import Gatehouse.Http.MediaType
import Gatehouse.Http.Response
import Gatehouse.Json.Form
import Gatehouse.Word

/-!
# Bodies of requests

Clients send forms as JSON documents.  A request without a content type has no body.

Main definitions:

- `readForm` reads the form of a request, or gives the response that refuses it.
- `loginRequest` takes the form of a login to the step that it asks for.
-/

namespace Gatehouse.Api

open Access (LoginRequest)
open Http (Headers Response)
open Json (FieldSpec FieldKind Form FormFault)

/-- A request as it arrives. -/
structure Request where
  method : String
  /-- The path with the query. -/
  target : String
  headers : Headers
  body : Bytes
  /-- The address of the connection. -/
  peer : Option Net.Address
  deriving DecidableEq, Repr

/-- The largest body that is read. -/
def bodyLimit : Nat := 2097152

/-- The response to a form that is no JSON or does not fit. -/
def refusal : FormFault → Response
  | .notJson => .text 400 .empty "Failed to parse the request body as JSON"
  | .misfit => .text 422 .empty "Failed to deserialize the JSON body into the target type"

/-- The form of a request, if it has a body. -/
def readForm (specs : List FieldSpec) (r : Request) : Except Response (Option Form) :=
  match r.headers.first? "content-type" with
  | none => .ok none
  | some value =>
    if ((Http.readable? value).bind Http.MediaType.ofText?).any (·.isJson) then
      if r.body.length > bodyLimit then
        .error (.text 413 .empty "Failed to buffer the request body: length limit exceeded")
      else
        match Form.read specs r.body with
        | .ok form => .ok (some form)
        | .error fault => .error (refusal fault)
    else
      .error (.text 415 .empty "Expected request with \x60Content-Type: application/json\x60")

/-! ## Forms -/

/-- A text that may be left out. -/
def textField (name : String) : FieldSpec := ⟨name, .text, true⟩

/-- A number of seconds that may be left out. -/
def secondsField (name : String) : FieldSpec := ⟨name, .whole 0 (Word.bound64 - 1), true⟩

/-- The form of a login. -/
def loginForm : List FieldSpec :=
  [textField "username", textField "password", textField "pending_token", textField "code",
    secondsField "ttl", ⟨"no_refresh_token", .flag, false⟩, textField "requested_redirect"]

/-- The form of a refresh. -/
def refreshForm : List FieldSpec :=
  [secondsField "ttl", textField "requested_redirect"]

/-- The form that asks for an API token. -/
def apiTokenForm : List FieldSpec :=
  [⟨"roles", .texts, true⟩, ⟨"expires_at", .whole Word.firstSigned64 Word.lastSigned64, true⟩,
    ⟨"description", .text, false⟩]

/-- The lifetime that a form asks for; zero when it asks for none. -/
def requestedTtl (f : Form) : Nat :=
  ((f.whole? "ttl").getD 0).toNat

/-- What the form of a login logs in with. -/
def loginCredential (f : Form) : Except Access.Error Access.LoginCredential :=
  match f.text? "pending_token", f.text? "code" with
  | some token, some code => .ok (.secondFactor token code)
  | some _, none => .error (.invalidArgument "code is required with pending_token")
  | none, _ =>
    match f.text? "username", f.text? "password" with
    | some username, some password =>
      if Text.isBlankText username then
        .error (.invalidArgument "username and password are required")
      else .ok (.password (Text.trim username) password)
    | _, _ => .error (.invalidArgument "username and password are required")

/-- The step that the form of a login asks for. -/
def loginRequest (f : Form) : Except Access.Error LoginRequest := do
  let credential ← loginCredential f
  return ⟨credential, requestedTtl f, !f.flag "no_refresh_token", f.text? "requested_redirect"⟩

end Gatehouse.Api
