import Gatehouse.Store.Action
import Gatehouse.Store.Register
import Gatehouse.Text.Blank

/-!
# The store in memory

A store that keeps its records in tables and never fails by itself.

Main definitions:

- `Memory` with the changes that set it up.
- `Memory.answer` answers a query and changes the store.
- `Seed` is a document with users and roles that a store can start with.
-/

namespace Gatehouse.Store

open Token (Time)

/-- An address of a user. -/
structure StoredEmail where
  address : String
  verified : Bool
  /-- The first such address of a user is the one to write to. -/
  isPrimary : Bool
  deriving DecidableEq, Repr

/-- The records.  Addresses, assignments and recovery codes are kept under the id of the user,
everything else under its own id. -/
structure Memory where
  users : Register User (·.id)
  emails : Table (List StoredEmail)
  roles : Register Role (·.id)
  assignments : Table (List String)
  permissions : Table (List String)
  recoveryCodes : Table (List String)
  rejections : Register Rejection (·.tokenId)
  apiTokens : Register ApiTokenRecord (·.id)
  apiTokenRoles : Table (List String)
  deriving Repr

namespace Memory

/-- No records. -/
def empty : Memory :=
  ⟨.empty, .empty, .empty, .empty, .empty, .empty, .empty, .empty, .empty⟩

/-! ## Setting up -/

/-- Put a user in, in the place of the one with the same id. -/
def putUser (m : Memory) (user : User) : Memory :=
  { m with users := m.users.put user }

/-- Set the secret of the second factor of a user. -/
def setTotpSecret (m : Memory) (userId : String) (secret : Option String) : Memory :=
  match m.users.find? userId with
  | some user => { m with users := m.users.put { user with totpSecret := secret } }
  | none => m

/-- Add an address of a user. -/
def addEmail (m : Memory) (userId : String) (email : StoredEmail) : Memory :=
  { m with emails := m.emails.change userId fun emails => emails.getD [] ++ [email] }

/-- Put a role in, in the place of the one with the same id. -/
def putRole (m : Memory) (role : Role) : Memory :=
  { m with roles := m.roles.put role }

/-- Assign a role to a user, at the end of those that the user has. -/
def assignRole (m : Memory) (userId roleId : String) : Memory :=
  { m with assignments := m.assignments.change userId fun ids => ids.getD [] ++ [roleId] }

/-- Set the permissions of a role. -/
def setPermissions (m : Memory) (roleId : String) (permissions : List String) : Memory :=
  { m with permissions := m.permissions.put roleId permissions }

/-- Add the digest of a recovery code; a user has each digest once. -/
def addRecoveryCode (m : Memory) (userId digest : String) : Memory :=
  { m with recoveryCodes := m.recoveryCodes.change userId fun digests =>
      let digests := digests.getD []
      if digests.contains digest then digests else digests ++ [digest] }

/-! ## Looking up -/

/-- The address to write to. -/
def primaryEmail? (m : Memory) (userId : String) : Option StoredEmail :=
  ((m.emails.find? userId).getD []).find? (·.isPrimary)

/-- A user with the address to write to. -/
def withEmail (m : Memory) (user : User) : User :=
  { user with email := (m.primaryEmail? user.id).map (·.address) }

/-- The roles with some ids, as far as there are such roles. -/
def rolesOf (m : Memory) (ids : Option (List String)) : List Role :=
  (ids.getD []).filterMap m.roles.find?

/-- A user who has an address, in any case of its letters, and whether it is verified. -/
def emailOwner? (m : Memory) (address : String) : Option (String × Bool) :=
  m.emails.entries.findSome? fun (userId, emails) =>
    (emails.find? fun email => Text.eqIgnoreCase email.address address).map fun email =>
      (userId, email.verified)

/-- Does a token come before another one in a listing?  Older ones come first, and of equal age the
one with the smaller id. -/
def isListedBefore (s t : ApiTokenRecord) : Bool :=
  s.createdAt < t.createdAt || (s.createdAt == t.createdAt && (s.id < t.id || s.id == t.id))

/-- The tokens of a user. -/
def apiTokensOf (m : Memory) (userId : String) : List ApiTokenRecord :=
  (m.apiTokens.data.filter (·.userId == userId)).mergeSort isListedBefore

/-- The reply that finds a record or none. -/
def found {α : Type} : Option α → Except Failure α
  | some a => .ok a
  | none => .error .notFound

/-! ## Answering -/

/-- Delete a recovery code; was there one? -/
def takeRecoveryCode (m : Memory) (userId digest : String) : Bool × Memory :=
  match m.recoveryCodes.find? userId with
  | some digests =>
    (digests.contains digest,
      { m with recoveryCodes := m.recoveryCodes.put userId (digests.filter (· != digest)) })
  | none => (false, m)

/-- Store a token.  All its roles have to exist. -/
def addApiToken (m : Memory) (token : ApiTokenRecord) (roleIds : List String) :
    Except Failure Unit × Memory :=
  match roleIds.find? fun id => !m.roles.contains id with
  | some missing => (.error (.other ("unknown role " ++ missing)), m)
  | none =>
    (.ok (), { m with
      apiTokens := m.apiTokens.put token
      apiTokenRoles := m.apiTokenRoles.put token.id roleIds })

/-- Delete a token, if it belongs to the user. -/
def removeApiToken (m : Memory) (tokenId userId : String) : Nat × Memory :=
  if (m.apiTokens.find? tokenId).any (·.userId == userId) then
    (1, { m with
      apiTokens := m.apiTokens.erase tokenId
      apiTokenRoles := m.apiTokenRoles.erase tokenId })
  else (0, m)

/-- Delete the rejections that expire before a time. -/
def dropRejections (m : Memory) (before : Time) : Nat × Memory :=
  let kept := m.rejections.filter fun r => before ≤ r.expiresAt
  (m.rejections.size - kept.size, { m with rejections := kept })

/-- Answer a query. -/
def answer (m : Memory) : (q : Query) → Reply q × Memory
  | .userById id => (found ((m.users.find? id).map m.withEmail), m)
  | .userByName name =>
    (found ((m.users.data.find? (·.username == name)).map m.withEmail), m)
  | .userByEmail address =>
    (found ((m.emailOwner? address).bind fun (id, verified) =>
      (m.users.find? id).map fun user => (m.withEmail user, verified)), m)
  | .primaryEmail id =>
    (found ((m.primaryEmail? id).map fun email => ⟨email.address, email.verified⟩), m)
  | .rolesOfUser id => (.ok (m.rolesOf (m.assignments.find? id)), m)
  | .permissionsOfRole id => (.ok ((m.permissions.find? id).getD []), m)
  | .takeRecoveryCode id digest =>
    let (taken, m) := m.takeRecoveryCode id digest
    (.ok taken, m)
  | .reject r => (.ok (), { m with rejections := m.rejections.put r })
  | .isRejected id => (.ok (m.rejections.contains id), m)
  | .dropRejections before =>
    let (dropped, m) := m.dropRejections before
    (.ok dropped, m)
  | .addApiToken token roleIds => m.addApiToken token roleIds
  | .apiTokenByDigest digest => (found (m.apiTokens.data.find? (·.digest == digest)), m)
  | .apiTokensOfUser id => (.ok (m.apiTokensOf id), m)
  | .rolesOfApiToken id => (.ok (m.rolesOf (m.apiTokenRoles.find? id)), m)
  | .removeApiToken id userId =>
    let (removed, m) := m.removeApiToken id userId
    (.ok removed, m)
  | .ping => (.ok (), m)

end Memory

/-! ## Seeds -/

/-- A role with its permissions. -/
structure SeedRole where
  role : Role
  permissions : List String
  deriving DecidableEq, Repr

/-- A user with an address and roles. -/
structure SeedUser where
  user : User
  emailVerified : Bool
  roleIds : List String
  deriving Repr

/-- The records that a store starts with. -/
structure Seed where
  roles : List SeedRole
  users : List SeedUser
  deriving Repr

/-- Put in a role with its permissions. -/
def Memory.plantRole (m : Memory) (r : SeedRole) : Memory :=
  (m.putRole r.role).setPermissions r.role.id r.permissions

/-- Put in a user with address and roles. -/
def Memory.plantUser (m : Memory) (u : SeedUser) : Memory :=
  let m := m.putUser { u.user with email := none }
  let m :=
    match u.user.email with
    | some address => m.addEmail u.user.id ⟨address, u.emailVerified, true⟩
    | none => m
  u.roleIds.foldl (fun m roleId => m.assignRole u.user.id roleId) m

/-- The store that starts with a seed: roles first, then users. -/
def Memory.ofSeed (s : Seed) : Memory :=
  s.users.foldl plantUser (s.roles.foldl plantRole .empty)

open Json (Reader Record readString readBool readList readNullable)

/-- The role in a value. -/
def SeedRole.ofJson? : Reader SeedRole := fun v => do
  let r ← Record.ofValue? ["id", "name", "description", "permissions"] v
  let id ← r.required "id" readString
  let name ← r.required "name" readString
  let description ← r.orElse "description" "" readString
  let permissions ← r.orElse "permissions" [] (readList readString)
  return ⟨⟨id, name, description⟩, permissions⟩

/-- The user in a value. -/
def SeedUser.ofJson? : Reader SeedUser := fun v => do
  let r ← Record.ofValue?
    ["id", "username", "password_hash", "display_name", "first_name", "last_name", "email",
      "email_verified", "totp_secret", "roles", "extra"] v
  let id ← r.required "id" readString
  let username ← r.required "username" readString
  let passwordHash ← r.required "password_hash" readString
  let displayName ← r.orElse "display_name" "" readString
  let firstName ← r.orElse "first_name" "" readString
  let lastName ← r.orElse "last_name" "" readString
  let email ← r.orElse "email" none (readNullable readString)
  let emailVerified ← r.orElse "email_verified" false readBool
  let totpSecret ← r.orElse "totp_secret" none (readNullable readString)
  let roleIds ← r.orElse "roles" [] (readList readString)
  let extra ← r.orElse "extra" none (readNullable Json.readAny)
  let user : User := { User.blank with
    id, username, displayName, firstName, lastName, passwordHash, totpSecret, email, extra }
  return ⟨user, emailVerified, roleIds⟩

/-- The seed in a value. -/
def Seed.ofJson? : Reader Seed := fun v => do
  let r ← Record.ofValue? ["roles", "users"] v
  let roles ← r.orElse "roles" [] (readList SeedRole.ofJson?)
  let users ← r.orElse "users" [] (readList SeedUser.ofJson?)
  return ⟨roles, users⟩

end Gatehouse.Store
