import Gatehouse.Api.Endpoint

/-!
# The application

Requests are brought to the endpoint at their path.  Every response carries an id of the request and
lets the pages of the service's own site read it; questions that browsers ask ahead of a request are
answered without asking the endpoint.

Main definitions: `App.ofEngine` and `App.serve`.
-/

namespace Gatehouse.Api

open Access (Occasion)
open Http (Headers Response)
open Store (Action)

/-- The application. -/
structure App where
  engine : Forward.Engine
  identification : Identification
  /-- The site whose pages may read responses. -/
  origin : Bytes

/-- Why there can be no application. -/
inductive AppError where
  | invalidUrl (url : String)
  | noHost (url : String)
  | invalidOrigin
  deriving DecidableEq, Repr

/-- The wording of an error. -/
def AppError.message : AppError → String
  | .invalidUrl url => "Invalid public URL: " ++ url
  | .noHost url => "Public URL must include a valid host: " ++ url
  | .invalidOrigin => "Failed to build public origin header"

/-- The site that an address belongs to. -/
def publicOrigin (url : String) : Except AppError Bytes :=
  match Url.parse? url with
  | none => .error (.invalidUrl url)
  | some parsed =>
    match parsed.origin? with
    | none => .error (.noHost url)
    | some origin =>
      match Http.fieldValue? (utf8 origin) with
      | some value => .ok value
      | none => .error .invalidOrigin

/-- The application around an engine. -/
def App.ofEngine (e : Forward.Engine) : Except AppError App := do
  let origin ← publicOrigin e.service.config.publicUrl
  return ⟨e, Gatehouse.identification, origin⟩

namespace App

/-- The lines by which browsers let the pages of the site read a response. -/
def corsLines (a : App) : Headers :=
  ⟨[("access-control-allow-origin", a.origin), ("access-control-allow-credentials", utf8 "true")]⟩

/-- On what the response may depend. -/
def varyLine : Bytes :=
  utf8 "origin, access-control-request-method, access-control-request-headers"

/-- A response that pages of the site may read. -/
def readableBySite (a : App) (r : Response) : Response :=
  { r with headers := (r.headers.append "vary" varyLine).extend a.corsLines }

/-- The answer to a browser that asks ahead of a request. -/
def preflight : Response :=
  .empty 200 ⟨[("access-control-allow-methods", utf8 "GET,POST,DELETE"),
    ("access-control-allow-headers", utf8 "content-type,authorization")]⟩

/-- The line that tells which methods an endpoint takes. -/
def allowLine (endpoint : Endpoint) : Headers :=
  ⟨[("allow", utf8 (Text.joinWith "," endpoint.methods))]⟩

/-- The response to a request for the endpoint at its path. -/
def route (a : App) (o : Occasion) (r : Request) : Action Served :=
  match Endpoint.ofPath? (String.ofList (r.target.toList.takeWhile (· != '?'))) with
  | none => return .plain (if r.method == "OPTIONS" then preflight else .empty 404 .empty)
  | some endpoint =>
    if r.method == "OPTIONS" then
      let allow := if endpoint.methods.contains "OPTIONS" then .empty else allowLine endpoint
      return .plain { preflight with headers := preflight.headers.extend allow }
    else if endpoint.methods.contains r.method then do
      let served ← endpoint.serve a.identification a.engine o r
      if r.method == "HEAD" then return { served with response.body := "" } else return served
    else return .plain (.empty 405 (allowLine endpoint))

/-- The response to a request, which is given an id if it has none. -/
def serve (a : App) (o : Occasion) (freshId : String) (r : Request) : Action Served := do
  let headers :=
    if r.headers.contains "x-request-id" then r.headers
    else r.headers.append "x-request-id" (utf8 freshId)
  let served ← a.route o { r with headers }
  let response := a.readableBySite served.response
  let response :=
    if response.headers.contains "x-request-id" then response
    else { response with
      headers := response.headers.append "x-request-id"
        ((headers.first? "x-request-id").getD (utf8 freshId)) }
  return { served with response }

end App

end Gatehouse.Api
