import Gatehouse.Access.ApiTokens
import Gatehouse.Access.Session
import Gatehouse.Api.Body
import Gatehouse.Encoding.Percent
import Gatehouse.Forward.Engine
import Gatehouse.Identification

/-!
# Endpoints

What the service answers at each of its addresses.  Cookies are set only by responses that tell of
success.

Main definitions: `Endpoint`, `Endpoint.ofPath?`, `Endpoint.methods` and `Endpoint.serve`.
-/

namespace Gatehouse.Api

open Access (Occasion Flow CookieFlow Service Principal)
open Http (Headers Response)
open Json (Value)
open Store (Action Asking)

/-- The addresses of the service. -/
inductive Endpoint where
  | health
  | login
  | refresh
  | logout
  | introspect
  | apiTokens
  /-- A single token; its id is written with escapes. -/
  | apiToken (escapedId : String)
  | forwardAuth
  deriving DecidableEq, Repr

namespace Endpoint

/-- The endpoint at a path. -/
def ofPath? (path : String) : Option Endpoint :=
  match Text.splitOn '/' path with
  | ["", "health"] => some .health
  | ["", "v1", "auth", "login"] => some .login
  | ["", "v1", "auth", "refresh"] => some .refresh
  | ["", "v1", "auth", "logout"] => some .logout
  | ["", "v1", "auth", "introspect"] => some .introspect
  | ["", "v1", "api-tokens"] => some .apiTokens
  | ["", "v1", "api-tokens", id] => if id.isEmpty then none else some (.apiToken id)
  | ["", "forward-auth"] => some .forwardAuth
  | _ => none

/-- The methods that an endpoint takes, in the order in which they are told. -/
def methods : Endpoint → List String
  | .health => ["GET", "HEAD", "OPTIONS"]
  | .login | .refresh | .logout => ["POST"]
  | .introspect => ["GET", "HEAD"]
  | .apiTokens => ["POST", "GET", "HEAD"]
  | .apiToken _ => ["DELETE"]
  | .forwardAuth => ["GET", "HEAD", "POST", "PUT", "PATCH", "DELETE", "OPTIONS"]

end Endpoint

/-- A response, and what a policy was asked on the way if it was. -/
structure Served where
  response : Response
  consulted : Option Policy.Input
  deriving Repr

/-- A response for which no policy was asked. -/
def Served.plain (r : Response) : Served := ⟨r, none⟩

/-- The response that tells of an error. -/
def errorResponse (e : Access.Error) : Response :=
  .json e.status .empty e.body

/-- The response of a flow. -/
def respond {α : Type} (x : Flow α) (answer : α → Response) : Action Response := do
  match ← x.run with
  | .ok a => return answer a
  | .error e => return errorResponse e

/-- The response of a cookie flow.  The cookies of a flow that fails are not set. -/
def respondWithCookies {α : Type} (x : CookieFlow α) (answer : α → Headers → Response) :
    Action Response := do
  match ← x.run.run .empty with
  | (.ok a, cookies) => return answer a cookies
  | (.error e, _) => return errorResponse e

/-! ## Health -/

/-- Tell whether the store answers. -/
def health (i : Identification) (method : String) : Action Response := do
  let healthy := (← Asking.ping.run).isOk
  let status := if healthy then 200 else 503
  let short := String.ofList (i.revision.toList.take 7)
  let headers := Headers.empty.appendText "x-app" (i.name ++ ":" ++ i.version ++ ":" ++ short)
  if method == "GET" then
    return .json status headers <| .object [
      ("commit", .string i.revision),
      ("name", .string i.name),
      ("version", .string i.version),
      ("store", .string (if healthy then "ok" else "error"))]
  else return .empty status headers

/-! ## Sessions -/

/-- The session that a request arrives with; a token that is not accepted stands for none. -/
def currentSession (s : Service) (o : Occasion) (r : Request) : Flow (Option Principal) :=
  ExceptT.mk do
    match ← (s.authenticateHeaders o.now r.headers).run with
    | .ok p => return .ok (some p)
    | .error (.internal detail) => return .error (.internal detail)
    | .error _ => return .ok none

/-- The response to a step of a login. -/
def loginResponse (outcome : Access.LoginOutcome) (cookies : Headers) : Response :=
  match outcome with
  | .secondFactorRequired pendingToken =>
    .json 202 cookies <| .object [
      ("second_factor_required", .bool true),
      ("pending_token", pendingToken.toJson)]
  | .established session => .json 200 cookies session.toJson

/-- Take a step of a login; a session that the request arrives with ends. -/
def login (s : Service) (o : Occasion) (r : Request) : Action Response :=
  match readForm loginForm r with
  | .error refused => return refused
  | .ok form =>
    let flow : CookieFlow Access.LoginOutcome := do
      let some form := form | throw (.invalidArgument "missing payload")
      let request ← ExceptT.mk (pure (loginRequest form))
      let current ← Flow.withCookies (currentSession s o r)
      s.login o request current
    respondWithCookies flow loginResponse

/-- Trade a refresh token for an access token. -/
def refresh (s : Service) (o : Occasion) (r : Request) : Action Response :=
  match readForm refreshForm r with
  | .error refused => return refused
  | .ok form =>
    let form := form.getD ⟨[]⟩
    respondWithCookies
      (s.refresh o r.headers (requestedTtl form) (form.text? "requested_redirect"))
      fun session cookies => .json 200 cookies session.toJson

/-- End a session. -/
def logout (s : Service) (o : Occasion) (r : Request) : Action Response :=
  let flow : CookieFlow Unit := do
    let principal ← Flow.withCookies (s.authenticateHeaders o.now r.headers)
    s.logout principal
  respondWithCookies flow fun _ cookies =>
    .empty 204 (cookies.put "clear-site-data" (utf8 "\"cookies\""))

/-- Tell users about themselves. -/
def introspect (s : Service) (o : Occasion) (r : Request) : Action Response :=
  let flow := do
    let principal ← s.authenticateHeaders o.now r.headers
    principal.profile
  respond flow fun profile => .json 200 .empty profile.toJson

/-! ## API tokens -/

/-- Make an API token. -/
def generateApiToken (s : Service) (o : Occasion) (r : Request) : Action Response :=
  match readForm apiTokenForm r with
  | .error refused => return refused
  | .ok form =>
    let form := form.getD ⟨[]⟩
    let flow := do
      let principal ← s.authenticateHeaders o.now r.headers
      principal.generateApiToken o (form.texts? "roles") (form.whole? "expires_at")
        ((form.text? "description").getD "")
    respond flow fun token => .json 201 .empty token.toJson

/-- List the API tokens of a user. -/
def listApiTokens (s : Service) (o : Occasion) (r : Request) : Action Response :=
  let flow := do
    let principal ← s.authenticateHeaders o.now r.headers
    principal.listApiTokens
  respond flow fun tokens => .json 200 .empty (.array (tokens.map (·.toJson)))

/-- Delete an API token. -/
def removeApiToken (s : Service) (o : Occasion) (r : Request) (escapedId : String) :
    Action Response :=
  match text? (Percent.decode (utf8 escapedId)) with
  | none => return .text 400 .empty "Invalid URL: Invalid UTF-8 in \x60id\x60"
  | some id =>
    let flow := do
      let principal ← s.authenticateHeaders o.now r.headers
      principal.removeApiToken id
    respond flow fun _ => .empty 204 .empty

/-! ## Delegated requests -/

/-- Decide about a delegated request. -/
def forwardAuth (e : Forward.Engine) (o : Occasion) (r : Request) : Action Served := do
  let ruling ← e.decide o.now (.ofHeaders r.headers r.peer e.trusted)
  return ⟨ruling.decision.response, ruling.consulted⟩

/-- The answer of an endpoint to a request whose method it takes. -/
def Endpoint.serve (i : Identification) (e : Forward.Engine) (o : Occasion) (r : Request) :
    Endpoint → Action Served
  | .health => return .plain (← Api.health i r.method)
  | .login => return .plain (← Api.login e.service o r)
  | .refresh => return .plain (← Api.refresh e.service o r)
  | .logout => return .plain (← Api.logout e.service o r)
  | .introspect => return .plain (← Api.introspect e.service o r)
  | .apiTokens =>
    if r.method == "POST" then return .plain (← Api.generateApiToken e.service o r)
    else return .plain (← Api.listApiTokens e.service o r)
  | .apiToken id => return .plain (← Api.removeApiToken e.service o r id)
  | .forwardAuth => Api.forwardAuth e o r

end Gatehouse.Api
