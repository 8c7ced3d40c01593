import Gatehouse.Encoding.Percent
import Gatehouse.Http.Header
import Gatehouse.Store.Model
import Gatehouse.Table

/-!
# What a policy is asked about

A policy sees who makes a request and what the request is, without the lines of the header that
carry credentials.

Main definitions:

- `Subject` and `Input`, with their JSON forms.
- `headerTable` and `queryTable` collect header lines and query fields by name.
-/

namespace Gatehouse.Policy

open Json (Value Reader Record readString readList orNull)
open Store (Role User)
open Token (Claims LoginKind)

/-- Who makes a request. -/
structure Subject where
  id : String
  username : String
  displayName : String
  email : Option String
  roles : List Role
  permissions : List String
  /-- Further attributes of the user. -/
  fields : Option Value
  loginKind : Option LoginKind
  deriving Repr

/-- A user with the session's login kind. -/
def Subject.ofUser (user : User) (kind : Option LoginKind) (roles : List Role)
    (permissions : List String) : Subject :=
  ⟨user.id, user.username, user.shownName, user.email, roles, permissions, user.extra, kind⟩

/-- Somebody of whom only the name is known. -/
def Subject.ofName (name : String) (roles : List Role) (permissions : List String) : Subject :=
  ⟨name, name, name, none, roles, permissions, none, none⟩

/-- What a policy is asked about. -/
structure Input where
  subject : Option Subject
  method : String
  path : String
  host : String
  headers : Table String
  query : Table (List String)
  client : Option String
  deriving Repr

/-! ## Collecting -/

/-- The lines that carry credentials. -/
def withheldLines : List String := ["authorization", "cookie"]

/-- The readable lines of each name, joined by commas. -/
def headerTable (headers : Http.Headers) : Table String :=
  headers.lines.foldl (fun table (name, value) =>
    if withheldLines.contains name then table
    else
      match Http.readable? value with
      | none => table
      | some text =>
        table.change name fun
          | some before => before ++ ", " ++ text
          | none => text) .empty

/-- The values of each field of a query. -/
def queryTable (query : String) : Table (List String) :=
  (Percent.formFields query).foldl (fun table (name, value) =>
    table.change name fun values => values.getD [] ++ [value]) .empty

/-! ## Writing -/

/-- The subject as JSON. -/
def Subject.toJson (s : Subject) : Value :=
  .object [
    ("id", .string s.id),
    ("username", .string s.username),
    ("display_name", .string s.displayName),
    ("email", orNull .string s.email),
    ("roles", .array (s.roles.map Role.toJson)),
    ("permissions", .strings s.permissions),
    ("fields", s.fields.getD .null),
    ("token_kind", orNull (fun k : LoginKind => .string k.name) s.loginKind)]

/-- The input as JSON. -/
def Input.toJson (i : Input) : Value :=
  .object [
    ("subject", orNull Subject.toJson i.subject),
    ("method", .string i.method),
    ("path", .string i.path),
    ("host", .string i.host),
    ("headers", .object (i.headers.entries.map fun (name, text) => (name, .string text))),
    ("query", .object (i.query.entries.map fun (name, values) => (name, .strings values))),
    ("client_ip", orNull .string i.client)]

/-! ## Reading -/

/-- The subject in a value. -/
def Subject.ofJson? : Reader Subject := fun v => do
  let r ← Record.ofValue?
    ["id", "username", "display_name", "email", "roles", "permissions", "fields", "token_kind"] v
  let id ← r.required "id" readString
  let username ← r.required "username" readString
  let displayName ← r.required "display_name" readString
  let email ← r.optional "email" readString
  let roles ← r.required "roles" (readList Role.ofJson?)
  let permissions ← r.required "permissions" (readList readString)
  let fields ← r.optional "fields" Json.readAny
  let kind ← r.optional "token_kind" Token.readLoginKind
  return ⟨id, username, displayName, email, roles, permissions, fields, kind⟩

/-- The input in a value. -/
def Input.ofJson? : Reader Input := fun v => do
  let r ← Record.ofValue?
    ["subject", "method", "path", "host", "headers", "query", "client_ip"] v
  let subject ← r.optional "subject" Subject.ofJson?
  let method ← r.required "method" readString
  let path ← r.required "path" readString
  let host ← r.required "host" readString
  let headers ← r.required "headers" (Json.readTable readString)
  let query ← r.required "query" (Json.readTable (readList readString))
  let client ← r.optional "client_ip" readString
  return ⟨subject, method, path, host, headers, query, client⟩

end Gatehouse.Policy
