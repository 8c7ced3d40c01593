import Gatehouse.Config
import Gatehouse.Http.Cookie
import Gatehouse.Store.Model
import Gatehouse.Token.Signed
import Gatehouse.Word

/-!
# Issuing tokens

Each token is issued for one purpose.  Access and refresh tokens name the roles of their user and
can travel as cookies; the token between password and second factor does neither.

Main definitions:

- `accessClaims`, `refreshClaims` and `pendingClaims` say what goes into a new token.
- `issueAccess`, `issueRefresh` and `issuePending` sign tokens and set their cookies.
- `clearCookies` makes the browser drop both cookies.
-/

namespace Gatehouse.Token

open Store (Role User)

/-- Why a token cannot be issued. -/
inductive IssueError where
  | token (cause : Error)
  /-- The cookie may not stand in a header. -/
  | cookie
  deriving DecidableEq, Repr

/-- The wording of an error. -/
def IssueError.message : IssueError → String
  | .token cause => cause.message
  | .cookie => "invalid cookie: failed to parse header value"

/-- A new token. -/
structure IssuedToken where
  token : String
  id : String
  expiresAt : Time
  deriving DecidableEq, Repr

/-- The token as JSON. -/
def IssuedToken.toJson (t : IssuedToken) : Json.Value :=
  .object [("token", .string t.token), ("id", .string t.id), ("expires_at", .int t.expiresAt)]

/-- The last time that can be written. -/
def lastTime : Time := Word.lastSigned64

/-- The end of a lifetime. -/
def expiry (now : Time) (ttl : Nat) : Time :=
  min (now + min (ttl : Int) lastTime) lastTime

/-! ## Claims of new tokens -/

/-- The claims that all new tokens have in common. -/
def newClaims (c : Config) (now : Time) (id : String) (user : User) (scope : Scope) (ttl : Nat)
    (metadata : Metadata) : Claims :=
  { audience := c.audienceText
    issuer := c.issuerText
    id
    issuedAt := now
    notBefore := now
    expiresAt := expiry now ttl
    subject := user.id
    name := user.username
    displayName := user.shownName
    email := user.email.getD ""
    scopes := [scope]
    metadata := some metadata }

/-- The claims of an access token.  The caller asks for a lifetime. -/
def accessClaims (c : Config) (now : Time) (id : String) (user : User) (roles : List Role)
    (requested : Nat) (parent : Option String) (kind : LoginKind) : Claims :=
  newClaims c now id user .access (c.grantedTtl user.id roles requested)
    ⟨currentVersion, parent, some ⟨roles.map (·.id)⟩, some kind⟩

/-- The claims of a refresh token. -/
def refreshClaims (c : Config) (now : Time) (id : String) (user : User) (roles : List Role)
    (kind : LoginKind) : Claims :=
  newClaims c now id user .refresh (c.refreshTtl user.id roles)
    ⟨currentVersion, none, some ⟨roles.map (·.id)⟩, some kind⟩

/-- The claims of the token between password and second factor. -/
def pendingClaims (c : Config) (now : Time) (id : String) (user : User) : Claims :=
  newClaims c now id user .pending pendingTtl ⟨currentVersion, none, none, none⟩

/-! ## Cookies -/

/-- How the cookies for a path travel. -/
def cookieScope (c : Config) (path : String) : Http.CookieScope :=
  ⟨path, c.cookieDomain, c.secureCookies⟩

/-- The cookie that carries an access token. -/
def accessCookie (c : Config) (token : String) (ttl : Nat) : Http.Cookie :=
  ⟨c.accessCookie, token, ttl, cookieScope c "/"⟩

/-- The cookie that carries a refresh token; it is sent only where tokens are refreshed. -/
def refreshCookie (c : Config) (token : String) (ttl : Nat) : Http.Cookie :=
  ⟨c.refreshCookie, token, ttl, cookieScope c c.refreshPath⟩

/-! ## Issuing -/

/-- A computation that adds cookies to a header.  Those added before a failure stay. -/
abbrev Issuing (α : Type) : Type :=
  ExceptT IssueError (StateM Http.Headers) α

/-- Sign claims with the secret of the service. -/
def issue (c : Config) (claims : Claims) : Issuing IssuedToken :=
  match sign c.algorithm c.key claims with
  | .ok token => pure ⟨token, claims.id, claims.expiresAt⟩
  | .error e => throw (.token e)

/-- Add a cookie to the header. -/
def setCookie (cookie : Http.Cookie) : Issuing Unit :=
  match cookie.header? with
  | some value => modify (·.append "set-cookie" value)
  | none => throw .cookie

/-- Issue an access token, and set its cookie if it shall have one. -/
def issueAccess (c : Config) (now : Time) (id : String) (user : User) (roles : List Role)
    (requested : Nat) (parent : Option String) (kind : LoginKind) (withCookie : Bool) :
    Issuing IssuedToken := do
  let issued ← issue c (accessClaims c now id user roles requested parent kind)
  if withCookie then
    setCookie (accessCookie c issued.token (c.grantedTtl user.id roles requested))
  return issued

/-- Issue a refresh token, and set its cookie if it shall have one. -/
def issueRefresh (c : Config) (now : Time) (id : String) (user : User) (roles : List Role)
    (kind : LoginKind) (withCookie : Bool) : Issuing IssuedToken := do
  let issued ← issue c (refreshClaims c now id user roles kind)
  if withCookie then
    setCookie (refreshCookie c issued.token (c.refreshTtl user.id roles))
  return issued

/-- Issue a token for the time between password and second factor. -/
def issuePending (c : Config) (now : Time) (id : String) (user : User) : Issuing IssuedToken :=
  issue c (pendingClaims c now id user)

/-- Make the browser drop both cookies, that of the access token first. -/
def clearCookies (c : Config) : Issuing Unit := do
  setCookie (.cleared c.accessCookie (cookieScope c "/"))
  setCookie (.cleared c.refreshCookie (cookieScope c c.refreshPath))

end Gatehouse.Token
