import Gatehouse.Access.Principal

/-!
# API tokens of a user

Users make long-lived tokens for their programs.  A token has some of the roles of its user; its
text is told once.

Main definitions: `generateApiToken`, `listApiTokens` and `removeApiToken`.
-/

namespace Gatehouse.Access

open Json (Value orNull)
open Store (Asking Role ApiTokenRecord)
open Token (Time)

/-- A new token, with its text. -/
structure GeneratedApiToken where
  id : String
  token : String
  description : String
  expiresAt : Option Time
  roles : List Role
  deriving DecidableEq, Repr

/-- A token in a listing. -/
structure ApiTokenSummary where
  id : String
  /-- The first characters of the text. -/
  redacted : String
  description : String
  createdAt : Time
  expiresAt : Option Time
  roles : List Role
  deriving DecidableEq, Repr

/-- The new token as JSON. -/
def GeneratedApiToken.toJson (t : GeneratedApiToken) : Value :=
  .object [
    ("id", .string t.id),
    ("token", .string t.token),
    ("description", .string t.description),
    ("expires_at", orNull Value.int t.expiresAt),
    ("roles", .array (t.roles.map Role.toJson))]

/-- The listed token as JSON. -/
def ApiTokenSummary.toJson (t : ApiTokenSummary) : Value :=
  .object [
    ("id", .string t.id),
    ("redacted", .string t.redacted),
    ("description", .string t.description),
    ("created_at", .int t.createdAt),
    ("expires_at", orNull Value.int t.expiresAt),
    ("roles", .array (t.roles.map Role.toJson))]

/-- Pick the roles with the wanted ids or names, each once, in the order in which they are wanted;
else the first wanted one that there is not. -/
def selectRoles (available : List Role) (wanted : List String) : Except String (List Role) :=
  wanted.foldlM (fun selected name =>
    match available.find? fun role => role.id == name || role.name == name with
    | none => .error name
    | some role =>
      .ok (if selected.any (·.id == role.id) then selected else selected ++ [role])) []

/-- The roles that a new token gets: all those of the user unless some of them are wanted. -/
def grantedRoles (available : List Role) (wanted : Option (List String)) :
    Except Error (List Role) :=
  match wanted with
  | none => .ok available
  | some wanted =>
    match selectRoles available wanted with
    | .ok roles => .ok roles
    | .error name => .error (.permissionDenied ("role " ++ name ++ " not granted"))

/-- Make a token for the principal's user. -/
def Principal.generateApiToken (p : Principal) (o : Occasion) (roles : Option (List String))
    (expiresAt : Option Time) (description : String) : Flow GeneratedApiToken := do
  if p.isApiToken then throw (.permissionDenied "API tokens cannot create API tokens")
  if expiresAt.any (· ≤ o.now) then throw (.invalidArgument "expiry must be in the future")
  let available ← Flow.fetch (Asking.rolesOfUser p.userId)
  let granted ← ExceptT.mk (pure (grantedRoles available roles))
  let token := Token.ApiToken.ofRandom o.apiTokenRandom
  let record : ApiTokenRecord :=
    { id := o.apiTokenId
      digest := Token.ApiToken.digest token
      redacted := Token.ApiToken.redacted token
      description := Text.trim description
      userId := p.userId
      createdAt := o.now
      expiresAt }
  Flow.fetch (Asking.addApiToken record (granted.map (·.id)))
  return ⟨record.id, token, record.description, expiresAt, granted⟩

/-- The tokens of the principal's user. -/
def Principal.listApiTokens (p : Principal) : Flow (List ApiTokenSummary) := do
  let tokens ← Flow.fetch (Asking.apiTokensOfUser p.userId)
  tokens.mapM fun t => do
    let roles ← Flow.fetch (Asking.rolesOfApiToken t.id)
    return ⟨t.id, t.redacted, t.description, t.createdAt, t.expiresAt, roles⟩

/-- Delete a token of the principal's user. -/
def Principal.removeApiToken (p : Principal) (tokenId : String) : Flow Unit := do
  let removed ← Flow.fetch (Asking.removeApiToken tokenId p.userId)
  if removed = 0 then throw (.notFound ("API token " ++ tokenId))

end Gatehouse.Access
