import Gatehouse.Access.Principal
import Gatehouse.Credential.Password
import Gatehouse.Redirect

/-!
# Login

A login takes one step or two.  The password step ends in a session, or, for users who have
enrolled a second factor, in a token that has to come back with a code in the second step.

Main definitions: `LoginRequest`, `LoginOutcome` and `Service.login`.
-/

namespace Gatehouse.Access

open Store (Asking User)
open Token (IssuedToken LoginKind Time)

/-- What a user logs in with. -/
inductive LoginCredential where
  | password (username password : String)
  /-- The token of the password step and a one-time code or recovery code. -/
  | secondFactor (pendingToken code : String)
  deriving DecidableEq, Repr

/-- A step of a login. -/
structure LoginRequest where
  credential : LoginCredential
  /-- The lifetime asked for in seconds; zero asks for the default. -/
  requestedTtl : Nat
  withRefreshToken : Bool
  /-- Where to go after the login, in its encoded form. -/
  redirect : Option String
  deriving DecidableEq, Repr

/-- A session. -/
structure Session where
  userId : String
  kind : LoginKind
  accessToken : IssuedToken
  refreshToken : Option IssuedToken
  redirectTo : Option String
  deriving DecidableEq, Repr

/-- The session as JSON. -/
def Session.toJson (s : Session) : Json.Value :=
  .object [
    ("user_id", .string s.userId),
    ("login_kind", .string s.kind.name),
    ("access_token", s.accessToken.toJson),
    ("refresh_token", Json.orNull IssuedToken.toJson s.refreshToken),
    ("redirect_to", Json.orNull .string s.redirectTo)]

/-- How a step of a login ends. -/
inductive LoginOutcome where
  | secondFactorRequired (pendingToken : IssuedToken)
  | established (session : Session)
  deriving DecidableEq, Repr

namespace Service

/-- Where to go, if that is permitted. -/
def redirectTarget (s : Service) (requested : Option String) : Option String :=
  requested.bind fun text => Redirect.allowedTarget? text s.config.redirectDomains

/-- The active user with a login name: a user name or, where that is permitted and nobody has that
user name, a verified address. -/
def loginUser? (s : Service) (name : String) : Flow (Option User) := do
  let name := Text.trim name
  if name.isEmpty then return none
  match ← Flow.lookup? (Asking.userByName name) with
  | some user => return if user.deleted then none else some user
  | none =>
    if !s.config.loginByEmail then return none
    match ← Flow.lookup? (Asking.userByEmail name) with
    | some (user, verified) => return if verified && !user.deleted then some user else none
    | none => return none

/-- The user with a login name and password. -/
def passwordUser (s : Service) (name password : String) : Flow User := do
  match ← s.loginUser? name with
  | none => throw .unauthenticated
  | some user =>
    if Credential.passwordMatches user.passwordHash password then return user
    else throw .unauthenticated

/-- Use up the recovery code of a user, if it is one. -/
def takeRecoveryCode (userId code : String) : Flow Bool :=
  match Credential.RecoveryCode.digest? code with
  | some digest => Flow.fetch (Asking.takeRecoveryCode userId digest)
  | none => return false

/-- The user whom a token of the password step belongs to, if the code is right. -/
def secondFactorUser (s : Service) (now : Time) (pendingToken code : String) : Flow User := do
  match Token.verify s.config.key now pendingToken with
  | .error _ => throw .unauthenticated
  | .ok claims =>
    if !claims.hasScope .pending then throw .unauthenticated
    let user ← Flow.activeUser claims.subject
    match user.totpSecret.filter (!·.isEmpty) with
    | none => throw .unauthenticated
    | some secret =>
      if s.acceptsCode secret now code then return user
      if ← takeRecoveryCode user.id code then return user
      throw .unauthenticated

/-- Begin a session of a user. -/
def establish (s : Service) (o : Occasion) (request : LoginRequest) (user : User)
    (kind : LoginKind) : CookieFlow Session := do
  let roles ← Flow.fetch (Asking.rolesOfUser user.id)
  let refreshToken ←
    if request.withRefreshToken then
      let issued ← issuing (Token.issueRefresh s.config o.now o.refreshId user roles kind true)
      pure (some issued)
    else pure none
  let accessToken ← issuing <|
    Token.issueAccess s.config o.now o.accessId user roles request.requestedTtl
      (refreshToken.map (·.id)) kind true
  return ⟨user.id, kind, accessToken, refreshToken, s.redirectTarget request.redirect⟩

/-- End a session that a request arrives with, and make the browser drop its cookies. -/
def endCurrent (s : Service) (current : Option Principal) : CookieFlow Unit := do
  match current.filter (·.source == .session) with
  | some principal =>
    Flow.withCookies (Flow.fetch (Ledger.endSession s.config principal.claims))
    issuing (Token.clearCookies s.config)
  | none => return ()

/-- Take a step of a login.  The session that the request arrives with ends first. -/
def login (s : Service) (o : Occasion) (request : LoginRequest) (current : Option Principal) :
    CookieFlow LoginOutcome := do
  s.endCurrent current
  match request.credential with
  | .password username password =>
    let user ← Flow.withCookies (s.passwordUser username password)
    if user.hasSecondFactor then
      let pendingToken ← issuing (Token.issuePending s.config o.now o.pendingId user)
      return .secondFactorRequired pendingToken
    else
      let session ← s.establish o request user .password
      return .established session
  | .secondFactor pendingToken code =>
    let user ← Flow.withCookies (s.secondFactorUser o.now pendingToken code)
    let session ← s.establish o request user .mfa
    return .established session

end Service

end Gatehouse.Access
