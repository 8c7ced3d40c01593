import Gatehouse.Json.Lookup
import Gatehouse.Store.Model

/-!
# Records as documents

Users, addresses and API tokens as JSON objects.  In an object that is read, a field that is
missing is taken for an empty one.
-/

namespace Gatehouse.Store

open Json (Value orNull)

/-- The user as JSON. -/
def User.toJson (u : User) : Value :=
  .object [
    ("id", .string u.id),
    ("username", .string u.username),
    ("display_name", .string u.displayName),
    ("first_name", .string u.firstName),
    ("last_name", .string u.lastName),
    ("avatar", .string u.avatar),
    ("password_hash", .string u.passwordHash),
    ("totp_secret", orNull .string u.totpSecret),
    ("email", orNull .string u.email),
    ("extra", u.extra.getD .null),
    ("deleted", .bool u.deleted)]

/-- The user in an object. -/
def User.ofFields (v : Value) : User :=
  { id := v.textAt "id"
    username := v.textAt "username"
    displayName := v.textAt "display_name"
    firstName := v.textAt "first_name"
    lastName := v.textAt "last_name"
    avatar := v.textAt "avatar"
    passwordHash := v.textAt "password_hash"
    totpSecret := v.textAt? "totp_secret"
    email := v.textAt? "email"
    extra := if v.holds "extra" then some (v.part "extra") else none
    deleted := v.flagAt "deleted" }

/-- The address as JSON. -/
def EmailAddress.toJson (e : EmailAddress) : Value :=
  .object [("address", .string e.address), ("verified", .bool e.verified)]

/-- The record of a token as JSON. -/
def ApiTokenRecord.toJson (t : ApiTokenRecord) : Value :=
  .object [
    ("id", .string t.id),
    ("token_hash", .string t.digest),
    ("redacted", .string t.redacted),
    ("description", .string t.description),
    ("user_id", .string t.userId),
    ("created_at", .int t.createdAt),
    ("expires_at", orNull .int t.expiresAt)]

/-- The record of a token in an object. -/
def ApiTokenRecord.ofFields (v : Value) : ApiTokenRecord :=
  { id := v.textAt "id"
    digest := v.textAt "token_hash"
    redacted := v.textAt "redacted"
    description := v.textAt "description"
    userId := v.textAt "user_id"
    createdAt := (v.intAt? "created_at").getD 0
    expiresAt := v.intAt? "expires_at" }

/-- Roles as JSON. -/
def rolesToJson (roles : List Role) : Value :=
  .array (roles.map (·.toJson))

end Gatehouse.Store
