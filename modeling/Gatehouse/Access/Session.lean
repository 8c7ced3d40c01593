import Gatehouse.Access.Login

/-!
# Sessions

A session goes on as long as its refresh token is good: the refresh token is traded for new access
tokens and is not changed by that.  Logging out ends the session.

Main definitions: `Service.refreshSigned`, `Service.refresh`, `Service.logout`, `Profile` and
`Principal.profile`.
-/

namespace Gatehouse.Access

open Json (Value orNull)
open Store (Asking Role)
open Token (LoginKind Time)

namespace Service

/-- Trade a signed refresh token for an access token. -/
def refreshSigned (s : Service) (o : Occasion) (token : String) (requestedTtl : Nat)
    (redirect : Option String) : CookieFlow Session := do
  match Token.verify s.config.key o.now token with
  | .error e => throw (.ofToken e)
  | .ok claims =>
    if !claims.hasScope .refresh then throw .unauthenticated
    if ← Flow.withCookies (Flow.fetch (Ledger.isRejected claims)) then throw .unauthenticated
    let user ← Flow.withCookies (Flow.activeUser claims.subject)
    let roles ← Flow.withCookies (Flow.fetch (Asking.rolesOfUser user.id))
    let kind := claims.loginKind?.getD .password
    let accessToken ← issuing <|
      Token.issueAccess s.config o.now o.accessId user roles requestedTtl (some claims.id) kind true
    return ⟨user.id, kind, accessToken, none, s.redirectTarget redirect⟩

/-- Trade the refresh token in the cookie for an access token. -/
def refresh (s : Service) (o : Occasion) (headers : Http.Headers) (requestedTtl : Nat)
    (redirect : Option String) : CookieFlow Session :=
  match Http.Cookie.find? headers s.config.refreshCookie with
  | none => throw .unauthenticated
  | some token => s.refreshSigned o token requestedTtl redirect

/-- End the session of a principal and make the browser drop its cookies. -/
def logout (s : Service) (p : Principal) : CookieFlow Unit := do
  if p.isApiToken then
    throw (.permissionDenied "API tokens cannot log out; remove the token instead")
  Flow.withCookies (Flow.fetch (Ledger.endSession s.config p.claims))
  issuing (Token.clearCookies s.config)

end Service

/-- What users are told about themselves. -/
structure Profile where
  id : String
  username : String
  displayName : String
  firstName : String
  lastName : String
  avatar : String
  email : Option String
  emailVerified : Bool
  roles : List Role
  loginKind : Option LoginKind
  deriving DecidableEq, Repr

/-- The profile as JSON. -/
def Profile.toJson (p : Profile) : Value :=
  .object [
    ("id", .string p.id),
    ("username", .string p.username),
    ("display_name", .string p.displayName),
    ("first_name", .string p.firstName),
    ("last_name", .string p.lastName),
    ("avatar", .string p.avatar),
    ("email", orNull .string p.email),
    ("email_verified", .bool p.emailVerified),
    ("roles", .array (p.roles.map Role.toJson)),
    ("login_kind", orNull (fun k : LoginKind => .string k.name) p.loginKind)]

/-- The profile of the principal's user. -/
def Principal.profile (p : Principal) : Flow Profile := do
  let user ← Flow.activeUser p.userId
  let email ← Flow.lookup? (Asking.primaryEmail user.id)
  let roles ← Flow.fetch (Asking.rolesOfUser user.id)
  return {
    id := user.id
    username := user.username
    displayName := user.shownName
    firstName := user.firstName
    lastName := user.lastName
    avatar := user.avatar
    email := email.map (·.address)
    emailVerified := email.any (·.verified)
    roles
    loginKind := p.claims.loginKind? }

end Gatehouse.Access
