import Gatehouse.Json.Record

/-!
# Claims

What a signed token says: who it is for, when it is good, and for what.  Claims are written as a
JSON object whose members have a fixed order; empty texts and absent parts are left out.

Main definitions:

- `Claims` with its views `hasScope`, `parent?`, `roles` and `loginKind?`.
- `Claims.toJson` and `Claims.ofJson?`.
-/

namespace Gatehouse.Token

/-- A point in time in seconds. -/
abbrev Time := Int

/-- What a token is good for. -/
inductive Scope where
  | access
  | refresh
  /-- Carries a user from the password step to the second factor. -/
  | pending
  deriving DecidableEq, Repr

/-- How a session was established. -/
inductive LoginKind where
  | password
  | mfa
  | webauthn
  | api
  deriving DecidableEq, Repr

/-- The written name of a scope. -/
def Scope.name : Scope → String
  | .access => "access"
  | .refresh => "refresh"
  | .pending => "2fa-pending"

/-- The written name of a login kind. -/
def LoginKind.name : LoginKind → String
  | .password => "password"
  | .mfa => "mfa"
  | .webauthn => "webauthn"
  | .api => "api"

/-- The roles a token was issued with. -/
structure Authorization where
  roles : List String
  deriving DecidableEq, Repr

/-- The part of the claims that only this service uses. -/
structure Metadata where
  version : String
  parent : Option String
  authorization : Option Authorization
  loginKind : Option LoginKind
  deriving DecidableEq, Repr

/-- The claims of a token. -/
structure Claims where
  audience : String
  issuer : String
  id : String
  issuedAt : Time
  notBefore : Time
  expiresAt : Time
  subject : String
  name : String
  displayName : String
  email : String
  scopes : List Scope
  metadata : Option Metadata
  deriving DecidableEq, Repr

/-- The version written into new tokens. -/
def currentVersion : String := "1"

namespace Claims

/-- Is the token good for the given purpose? -/
def hasScope (c : Claims) (scope : Scope) : Bool :=
  c.scopes.contains scope

/-- The id of the refresh token that the token was derived from. -/
def parent? (c : Claims) : Option String :=
  (c.metadata.bind (·.parent)).filter (!·.isEmpty)

/-- The roles the token was issued with. -/
def roles (c : Claims) : List String :=
  ((c.metadata.bind (·.authorization)).map (·.roles)).getD []

/-- How the session behind the token was established. -/
def loginKind? (c : Claims) : Option LoginKind :=
  c.metadata.bind (·.loginKind)

end Claims

/-! ## Writing -/

open Json (Value)

/-- A member that is left out when its text is empty. -/
def textMember (name text : String) : List (String × Value) :=
  if text.isEmpty then [] else [(name, .string text)]

/-- A member that is left out when its part is absent. -/
def partMember {α : Type} (name : String) (write : α → Value) : Option α → List (String × Value)
  | none => []
  | some part => [(name, write part)]

/-- The roles as JSON. -/
def Authorization.toJson (a : Authorization) : Value :=
  .object (if a.roles.isEmpty then [] else [("roles", .strings a.roles)])

/-- The metadata as JSON. -/
def Metadata.toJson (m : Metadata) : Value :=
  .object <|
    ("token_version", .string m.version) ::
      (partMember "parent_token" .string m.parent ++
        partMember "authorization" Authorization.toJson m.authorization ++
        partMember "loginKind" (fun k : LoginKind => .string k.name) m.loginKind)

/-- The claims as JSON. -/
def Claims.toJson (c : Claims) : Value :=
  .object <|
    textMember "aud" c.audience ++ textMember "iss" c.issuer ++
      [("jti", .string c.id), ("iat", .int c.issuedAt), ("nbf", .int c.notBefore),
        ("exp", .int c.expiresAt), ("sub", .string c.subject)] ++
      textMember "name" c.name ++ textMember "displayName" c.displayName ++
      textMember "email" c.email ++
      [("scopes", .array (c.scopes.map fun s => .string s.name))] ++
      partMember "app_metadata" Metadata.toJson c.metadata

/-! ## Reading -/

open Json (Reader Record)

/-- One of some named choices: its name, or an object that gives the name with nothing. -/
def readChoice {α : Type} (choices : List (String × α)) : Reader α
  | .string s => choices.lookup s
  | .object [(name, .null)] => choices.lookup name
  | _ => none

/-- A scope by its written name. -/
def readScope : Reader Scope :=
  readChoice ([.access, .refresh, .pending].map fun s : Scope => (s.name, s))

/-- A login kind by its written name. -/
def readLoginKind : Reader LoginKind :=
  readChoice ([.password, .mfa, .webauthn, .api].map fun k : LoginKind => (k.name, k))

/-- The roles in a value. -/
def Authorization.ofJson? : Reader Authorization := fun v => do
  let r ← Record.ofValue? ["roles"] v
  let roles ← r.orElse "roles" [] (Json.readList Json.readString)
  return ⟨roles⟩

/-- The metadata in a value. -/
def Metadata.ofJson? : Reader Metadata := fun v => do
  let r ← Record.ofValue? ["token_version", "parent_token", "authorization", "loginKind"] v
  let version ← r.required "token_version" Json.readString
  let parent ← r.orElse "parent_token" none (Json.readNullable Json.readString)
  let authorization ← r.orElse "authorization" none (Json.readNullable Authorization.ofJson?)
  let loginKind ← r.orElse "loginKind" none (Json.readNullable readLoginKind)
  return ⟨version, parent, authorization, loginKind⟩

/-- The names of the claims in their order. -/
def claimNames : List String :=
  ["aud", "iss", "jti", "iat", "nbf", "exp", "sub", "name", "displayName", "email", "scopes",
    "app_metadata"]

/-- The claims in a value. -/
def Claims.ofJson? : Reader Claims := fun v => do
  let r ← Record.ofValue? claimNames v
  let audience ← r.orElse "aud" "" Json.readString
  let issuer ← r.orElse "iss" "" Json.readString
  let id ← r.required "jti" Json.readString
  let issuedAt ← r.required "iat" Json.readInt64
  let notBefore ← r.required "nbf" Json.readInt64
  let expiresAt ← r.required "exp" Json.readInt64
  let subject ← r.required "sub" Json.readString
  let name ← r.orElse "name" "" Json.readString
  let displayName ← r.orElse "displayName" "" Json.readString
  let email ← r.orElse "email" "" Json.readString
  let scopes ← r.orElse "scopes" [] (Json.readList readScope)
  let metadata ← r.orElse "app_metadata" none (Json.readNullable Metadata.ofJson?)
  return ⟨audience, issuer, id, issuedAt, notBefore, expiresAt, subject, name, displayName, email,
    scopes, metadata⟩

end Gatehouse.Token
