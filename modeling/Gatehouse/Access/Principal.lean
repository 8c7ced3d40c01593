import Gatehouse.Access.Flow
import Gatehouse.Access.Ledger
import Gatehouse.Credential.SecondFactor
import Gatehouse.Http.Cookie
import Gatehouse.Token.Opaque

/-!
# Authentication

A request presents a signed token or an API token.  Whoever it belongs to is the principal of the
request; for an API token the principal has the claims that an access token of its owner would have.

Main definitions:

- `PresentedToken.ofHeaders?` finds the token of a request.
- `Service.authenticate` takes it to a `Principal`.
-/

namespace Gatehouse.Access

open Store (Asking Role ApiTokenRecord User)
open Token (Claims Time)

/-- The settings that the flows depend on. -/
structure Service where
  config : Config
  /-- Is the code right for a secret at a time? -/
  acceptsCode : (secret : String) → (now : Time) → (code : String) → Bool

/-- The service with one-time codes. -/
def Service.ofConfig (config : Config) : Service :=
  ⟨config, Credential.OneTimeCode.accepts⟩

/-- What a request is given from outside: the time, and material that no other request is given. -/
structure Occasion where
  now : Time
  accessId : String
  refreshId : String
  pendingId : String
  apiTokenId : String
  /-- The random bytes of a new API token. -/
  apiTokenRandom : Bytes
  deriving DecidableEq, Repr

/-! ## Presented tokens -/

/-- The token that a request presents. -/
inductive PresentedToken where
  | signed (token : String)
  | api (token : String)
  deriving DecidableEq, Repr

namespace PresentedToken

/-- Tell the kinds of tokens apart. -/
def ofText (token : String) : PresentedToken :=
  if Token.ApiToken.isApiToken token then .api token else .signed token

/-- The bearer token of a request, else the token in the cookie. -/
def ofHeaders? (headers : Http.Headers) (cookieName : String) : Option PresentedToken :=
  ((Http.bearer? headers).or (Http.Cookie.find? headers cookieName)).map ofText

end PresentedToken

/-! ## Principals -/

/-- Where a principal comes from. -/
inductive Source where
  /-- An access token of a session. -/
  | session
  /-- An API token with its roles. -/
  | apiToken (id : String) (roles : List Role)
  deriving DecidableEq, Repr

/-- Who makes a request. -/
structure Principal where
  claims : Claims
  source : Source
  deriving DecidableEq, Repr

/-- The id of the user. -/
def Principal.userId (p : Principal) : String :=
  p.claims.subject

/-- Does the principal come from an API token? -/
def Principal.isApiToken (p : Principal) : Bool :=
  match p.source with
  | .session => false
  | .apiToken .. => true

/-- The source of a principal as JSON. -/
def Source.toJson : Source → Json.Value
  | .session => .string "session"
  | .apiToken id roles =>
    .object [("token_id", .string id), ("roles", .array (roles.map (·.toJson)))]

/-- The principal as JSON. -/
def Principal.toJson (p : Principal) : Json.Value :=
  .object [
    ("user_id", .string p.userId),
    ("is_api_token", .bool p.isApiToken),
    ("claims", p.claims.toJson),
    ("source", p.source.toJson)]

namespace Service

/-- The principal of an access token. -/
def authenticateSigned (s : Service) (now : Time) (token : String) : Flow Principal := do
  match Token.verify s.config.key now token with
  | .error e => throw (.ofToken e)
  | .ok claims =>
    if !claims.hasScope .access then throw .unauthenticated
    if ← Flow.fetch (Ledger.isRejected claims) then throw .unauthenticated
    return ⟨claims, .session⟩

/-- The claims that stand for an API token. -/
def apiTokenClaims (c : Config) (stored : ApiTokenRecord) (user : User) (roles : List Role) :
    Claims :=
  { audience := c.audienceText
    issuer := c.issuerText
    id := stored.id
    issuedAt := stored.createdAt
    notBefore := stored.createdAt
    expiresAt := stored.expiresAt.getD Token.lastTime
    subject := user.id
    name := user.username
    displayName := user.shownName
    email := user.email.getD ""
    scopes := [.access]
    metadata := some ⟨Token.currentVersion, none, some ⟨roles.map (·.id)⟩, some .api⟩ }

/-- The principal of an API token. -/
def authenticateApi (s : Service) (now : Time) (token : String) : Flow Principal := do
  match ← Flow.lookup? (Asking.apiTokenByDigest (Token.ApiToken.digest token)) with
  | none => throw .unauthenticated
  | some stored =>
    if stored.isExpired now then throw .unauthenticated
    let user ← Flow.activeUser stored.userId
    let roles ← Flow.fetch (Asking.rolesOfApiToken stored.id)
    return ⟨apiTokenClaims s.config stored user roles, .apiToken stored.id roles⟩

/-- The principal of a presented token. -/
def authenticate (s : Service) (now : Time) : PresentedToken → Flow Principal
  | .signed token => s.authenticateSigned now token
  | .api token => s.authenticateApi now token

/-- The principal of a request. -/
def authenticateHeaders (s : Service) (now : Time) (headers : Http.Headers) : Flow Principal :=
  match PresentedToken.ofHeaders? headers s.config.accessCookie with
  | some token => s.authenticate now token
  | none => throw .unauthenticated

end Service

/-- The roles of a principal: those of the API token, else those of the user. -/
def Principal.roles (p : Principal) : Flow (List Role) :=
  match p.source with
  | .apiToken _ roles => return roles
  | .session => Flow.fetch (Asking.rolesOfUser p.userId)

end Gatehouse.Access
