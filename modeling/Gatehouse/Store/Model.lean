import Gatehouse.Json.Record
import Gatehouse.Text.Blank
import Gatehouse.Token.Claims

/-!
# Records

What the store keeps about users, their addresses, roles and tokens.

Main definitions: `User`, `Role`, `EmailAddress`, `Rejection` and `ApiTokenRecord`.
-/

namespace Gatehouse.Store

open Token (Time)

/-- A user. -/
structure User where
  id : String
  username : String
  displayName : String
  firstName : String
  lastName : String
  avatar : String
  /-- The record of the password hash. -/
  passwordHash : String
  /-- The shared secret of one-time codes, when a second factor is enrolled. -/
  totpSecret : Option String
  /-- The primary address. -/
  email : Option String
  /-- Further attributes that policies may look at. -/
  extra : Option Json.Value
  deleted : Bool
  deriving Repr, Inhabited

/-- A user of whom nothing is known. -/
def User.blank : User :=
  ⟨"", "", "", "", "", "", "", none, none, none, false⟩

/-- Is a second factor enrolled?  An empty secret counts as none. -/
def User.hasSecondFactor (u : User) : Bool :=
  u.totpSecret.any (!·.isEmpty)

/-- The name to show: the display name, else first and last name, else the user name. -/
def User.shownName (u : User) : String :=
  if !Text.isBlankText u.displayName then u.displayName
  else
    let joined := Text.trim (Text.trim u.firstName ++ " " ++ Text.trim u.lastName)
    if joined.isEmpty then u.username else joined

/-- A role that users and API tokens can have. -/
structure Role where
  id : String
  name : String
  description : String
  deriving DecidableEq, Repr, Inhabited

/-- The role as JSON. -/
def Role.toJson (role : Role) : Json.Value :=
  .object [("id", .string role.id), ("name", .string role.name),
    ("description", .string role.description)]

/-- The role in a value. -/
def Role.ofJson? : Json.Reader Role := fun v => do
  let r ← Json.Record.ofValue? ["id", "name", "description"] v
  let id ← r.required "id" Json.readString
  let name ← r.required "name" Json.readString
  let description ← r.orElse "description" "" Json.readString
  return ⟨id, name, description⟩

/-- An address, and whether it is known to belong to its user. -/
structure EmailAddress where
  address : String
  verified : Bool
  deriving DecidableEq, Repr, Inhabited

/-- A row of the ledger: a token that is no longer accepted. -/
structure Rejection where
  tokenId : String
  userId : String
  issuedAt : Time
  expiresAt : Time
  deriving DecidableEq, Repr

/-- What is stored of an API token; its text is not. -/
structure ApiTokenRecord where
  id : String
  digest : String
  redacted : String
  description : String
  userId : String
  createdAt : Time
  expiresAt : Option Time
  deriving DecidableEq, Repr

/-- Does the token's expiry lie strictly in the past? -/
def ApiTokenRecord.isExpired (t : ApiTokenRecord) (now : Time) : Bool :=
  t.expiresAt.any (· < now)

end Gatehouse.Store
