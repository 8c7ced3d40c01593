import Gatehouse.Api.Endpoint
import Gatehouse.Json.Lookup

/-!
# The description of the interface

What clients can ask and what they are answered, as an OpenAPI document.

Main definitions:

- `Shape` and `Schema` describe data, `Operation` what an endpoint does for a method.
- `schemas` and `operations` list those of this service.
- `document` is the whole description.
-/

namespace Gatehouse.Api

open Json (Value)

/-! ## Data -/

/-- The shape of a datum. -/
inductive Shape where
  | text
  | flag
  /-- A whole number of 64 bits, perhaps with a least value. -/
  | whole (minimum : Option Nat)
  | list (item : Shape)
  /-- A datum with a schema of its own. -/
  | named (schema : String)
  deriving DecidableEq, Repr

/-- The type of a datum, which may be `null` where it is optional. -/
def typeName (name : String) (optional : Bool) : Value :=
  if optional then .strings [name, "null"] else .string name

/-- The reference to a schema. -/
def reference (schema : String) : Value :=
  .object [("$ref", .string ("#/components/schemas/" ++ schema))]

/-- The members that describe a datum. -/
def Shape.members (optional : Bool) : Shape → List (String × Value)
  | .text => [("type", typeName "string" optional)]
  | .flag => [("type", typeName "boolean" optional)]
  | .whole minimum =>
    [("type", typeName "integer" optional), ("format", .string "int64")] ++
      (minimum.map fun n => ("minimum", .int n)).toList
  | .list item =>
    [("type", typeName "array" optional), ("items", .object (item.members false))]
  | .named schema =>
    if optional then
      [("oneOf", .array [.object [("type", .string "null")], reference schema])]
    else [("$ref", .string ("#/components/schemas/" ++ schema))]

/-- The description of a datum that has to be there. -/
def Shape.toJson (s : Shape) : Value :=
  .object (s.members false)

/-- Must a field be there, may it be left out for its default, or may it be `null` as well? -/
inductive Presence where
  | required
  | defaulted
  | optional
  deriving DecidableEq, Repr

/-- A field of a record. -/
structure Field where
  name : String
  shape : Shape
  presence : Presence
  description : Option String
  deriving DecidableEq, Repr

/-- A field that has to be there. -/
def Field.always (name : String) (shape : Shape) : Field :=
  ⟨name, shape, .required, none⟩

/-- A field that may be missing. -/
def Field.maybe (name : String) (shape : Shape) : Field :=
  ⟨name, shape, .optional, none⟩

/-- A field with a remark. -/
def Field.remark (f : Field) (text : String) : Field :=
  { f with description := some text }

/-- The remark as a member. -/
def descriptionMember (text : Option String) : List (String × Value) :=
  (text.map fun t => ("description", Value.string t)).toList

/-- The description of a field. -/
def Field.toJson (f : Field) : Value :=
  .object (f.shape.members (f.presence == .optional) ++ descriptionMember f.description)

/-- What a named schema describes. -/
inductive Content where
  | choice (names : List String)
  | record (fields : List Field)
  deriving DecidableEq, Repr

/-- A named schema. -/
structure Schema where
  name : String
  description : Option String
  content : Content
  deriving DecidableEq, Repr

/-- The description that a schema gives. -/
def Schema.toJson (s : Schema) : Value :=
  .object <| descriptionMember s.description ++
    match s.content with
    | .choice names => [("type", .string "string"), ("enum", .strings names)]
    | .record fields =>
      let required := (fields.filter (·.presence == .required)).map (·.name)
      [("type", .string "object"),
        ("properties", .object (fields.map fun f => (f.name, f.toJson)))] ++
        if required.isEmpty then [] else [("required", .strings required)]

/-- The schemas of this service. -/
def schemas : List Schema := [
  ⟨"ApiTokenSummary", none, .record [
    .always "id" .text,
    (Field.always "redacted" .text).remark "Leading characters of the token, e.g. \x60it.abc\x60.",
    .always "description" .text,
    .always "created_at" (.whole none),
    .maybe "expires_at" (.whole none),
    .always "roles" (.list (.named "Role"))]⟩,
  ⟨"ErrorBody", some "JSON body returned for every error.", .record [
    (Field.always "code" .text).remark
      "Stable machine-readable code, e.g. \x60unauthenticated\x60 or \x60expired\x60.",
    .always "message" .text]⟩,
  ⟨"GenerateApiTokenBody", none, .record [
    (Field.maybe "roles" (.list .text)).remark
      "Role ids or names; defaults to every role of the caller.",
    (Field.maybe "expires_at" (.whole none)).remark
      "Unix seconds; omitted for a token that never expires.",
    ⟨"description", .text, .defaulted, none⟩]⟩,
  ⟨"GeneratedApiToken",
    some "Returned once on creation; the plaintext token is not retrievable later.", .record [
    .always "id" .text,
    .always "token" .text,
    .always "description" .text,
    .maybe "expires_at" (.whole none),
    .always "roles" (.list (.named "Role"))]⟩,
  ⟨"Health", none, .record [
    .always "commit" .text,
    .always "name" .text,
    .always "version" .text,
    .always "store" .text]⟩,
  ⟨"LoginBody", none, .record [
    .maybe "username" .text,
    .maybe "password" .text,
    (Field.maybe "pending_token" .text).remark "Pending token returned by the password step.",
    (Field.maybe "code" .text).remark "TOTP or recovery code.",
    (Field.maybe "ttl" (.whole (some 0))).remark "Requested access token lifetime in seconds.",
    ⟨"no_refresh_token", .flag, .defaulted, none⟩,
    (Field.maybe "requested_redirect" .text).remark "Base64url-encoded URL to return to."]⟩,
  ⟨"LoginKind", some "How the session behind a token was established.",
    .choice ["password", "mfa", "webauthn", "api"]⟩,
  ⟨"Profile", some "Read-only view of the authenticated user.", .record [
    .always "id" .text,
    .always "username" .text,
    .always "display_name" .text,
    .always "first_name" .text,
    .always "last_name" .text,
    .always "avatar" .text,
    .maybe "email" .text,
    .always "email_verified" .flag,
    .always "roles" (.list (.named "Role")),
    .maybe "login_kind" (.named "LoginKind")]⟩,
  ⟨"RefreshBody", none, .record [
    .maybe "ttl" (.whole (some 0)),
    .maybe "requested_redirect" .text]⟩,
  ⟨"Role", none, .record [
    .always "id" .text,
    .always "name" .text,
    ⟨"description", .text, .defaulted, none⟩]⟩,
  ⟨"SecondFactorResponse", none, .record [
    .always "second_factor_required" .flag,
    .always "pending_token" (.named "TokenResponse")]⟩,
  ⟨"SessionResponse", none, .record [
    .always "user_id" .text,
    .always "login_kind" (.named "LoginKind"),
    .always "access_token" (.named "TokenResponse"),
    .maybe "refresh_token" (.named "TokenResponse"),
    .maybe "redirect_to" .text]⟩,
  ⟨"TokenResponse", none, .record [
    .always "token" .text,
    .always "id" .text,
    .always "expires_at" (.whole none)]⟩]

/-! ## Operations -/

/-- What the caller gives outside of the body. -/
structure Parameter where
  name : String
  place : String
  presence : Presence
  description : String
  deriving DecidableEq, Repr

/-- The description of a parameter. -/
def Parameter.toJson (p : Parameter) : Value :=
  .object [
    ("name", .string p.name),
    ("in", .string p.place),
    ("description", .string p.description),
    ("required", .bool (p.presence == .required)),
    ("schema", .object (Shape.members (p.presence == .optional) .text))]

/-- An answer: its status, what it tells, and the datum in it. -/
structure Answer where
  status : Nat
  description : String
  body : Option Shape
  deriving DecidableEq, Repr

/-- A datum as the content of a message. -/
def contentJson (body : Shape) : Value :=
  .object [("application/json", .object [("schema", body.toJson)])]

/-- The description of an answer. -/
def Answer.toJson (a : Answer) : Value :=
  .object (("description", .string a.description) ::
    (a.body.map fun body => ("content", contentJson body)).toList)

/-- What an endpoint does for some methods. -/
structure Operation where
  path : String
  methods : List String
  name : String
  tag : String
  parameters : List Parameter
  /-- The schema of the body. -/
  body : Option String
  answers : List Answer
  deriving DecidableEq, Repr

/-- The description of an operation. -/
def Operation.toJson (o : Operation) : Value :=
  .object <|
    [("tags", .strings [o.tag]), ("operationId", .string o.name)] ++
    (if o.parameters.isEmpty then []
      else [("parameters", .array (o.parameters.map (·.toJson)))]) ++
    (o.body.map fun schema => ("requestBody", Value.object [
      ("content", contentJson (.named schema)), ("required", .bool true)])).toList ++
    [("responses", .object (o.answers.map fun a => (Decimal.natText a.status, a.toJson)))]

/-- An answer that tells of an error. -/
def errorAnswer (status : Nat) (description : String) : Answer :=
  ⟨status, description, some (.named "ErrorBody")⟩

/-- A line of the header that the proxy may give. -/
def forwardedLine (name description : String) : Parameter :=
  ⟨name, "header", .optional, description⟩

/-- The operations of this service. -/
def operations : List Operation := [
  ⟨"/health", ["get"], "health", "health", [], none, [
    ⟨200, "Datastore is reachable", some (.named "Health")⟩,
    ⟨503, "Datastore is unreachable", some (.named "Health")⟩]⟩,
  ⟨"/v1/auth/login", ["post"], "login", "auth", [], some "LoginBody", [
    ⟨200, "Logged in", some (.named "SessionResponse")⟩,
    ⟨202, "Second factor required", some (.named "SecondFactorResponse")⟩,
    errorAnswer 400 "Malformed request",
    errorAnswer 401 "Invalid credentials"]⟩,
  ⟨"/v1/auth/refresh", ["post"], "refresh", "auth", [], some "RefreshBody", [
    ⟨200, "New access token", some (.named "SessionResponse")⟩,
    errorAnswer 401 "Missing, invalid, expired or revoked refresh token"]⟩,
  ⟨"/v1/auth/logout", ["post"], "logout", "auth", [], none, [
    ⟨204, "Session revoked and cookies cleared", none⟩,
    errorAnswer 401 "Not authenticated",
    errorAnswer 403 "API tokens cannot log out"]⟩,
  ⟨"/v1/auth/introspect", ["get"], "introspect", "auth", [], none, [
    ⟨200, "Authenticated principal", some (.named "Profile")⟩,
    errorAnswer 401 "Not authenticated"]⟩,
  ⟨"/v1/api-tokens", ["post"], "generate_api_token", "api-tokens", [],
    some "GenerateApiTokenBody", [
    ⟨201, "Token created; the plaintext is only returned once",
      some (.named "GeneratedApiToken")⟩,
    errorAnswer 400 "Expiry in the past",
    errorAnswer 401 "Not authenticated",
    errorAnswer 403 "Requested roles exceed the caller's"]⟩,
  ⟨"/v1/api-tokens", ["get"], "list_api_tokens", "api-tokens", [], none, [
    ⟨200, "Tokens owned by the caller", some (.list (.named "ApiTokenSummary"))⟩,
    errorAnswer 401 "Not authenticated"]⟩,
  ⟨"/v1/api-tokens/\x7bid\x7d", ["delete"], "remove_api_token", "api-tokens",
    [⟨"id", "path", .required, "Token id"⟩], none, [
    ⟨204, "Token removed", none⟩,
    errorAnswer 401 "Not authenticated",
    errorAnswer 404 "No such token for the caller"]⟩,
  ⟨"/forward-auth", ["get", "post", "put", "patch", "delete", "head", "options"],
    "forward_auth", "forward-auth", [
    forwardedLine "X-Forwarded-Method" "Original request method",
    forwardedLine "X-Forwarded-Proto" "Original request scheme",
    forwardedLine "X-Forwarded-Host" "Original request host",
    forwardedLine "X-Forwarded-Uri" "Original path and query",
    forwardedLine "X-Forwarded-For"
      "Client address chain, honoured from trusted proxies only"], none, [
    ⟨200, "Allowed; identity is carried in remote-* headers", none⟩,
    ⟨302, "Login or refresh required (HTML clients)", none⟩,
    ⟨403, "Denied, or redirect location for non-HTML clients", none⟩,
    ⟨500, "Decision could not be made", none⟩]⟩]

/-! ## The document -/

/-- The operations of each path, under the names of their methods. -/
def paths : Table (List (String × Value)) :=
  operations.foldl
    (fun table o => table.change o.path fun known =>
      known.getD [] ++ o.methods.map fun method => (method, o.toJson))
    .empty

/-- What is told about the groups of operations. -/
def tags : List (String × String) := [
  ("auth", "Login, refresh, logout and introspection"),
  ("api-tokens", "Long-lived opaque API tokens"),
  ("forward-auth", "Reverse proxy authorization decisions")]

/-- Who answers for the service, and on what terms. -/
def info (i : Identification) : Value :=
  .object [
    ("title", .string i.name),
    ("description", .string i.purpose),
    ("contact", .object [
      ("name", .string "Team Portcullis"),
      ("email", .string "team@portcullis.dev")]),
    ("license", .object [
      ("name", .string "BSD-3-Clause"),
      ("identifier", .string "BSD-3-Clause")]),
    ("version", .string i.version)]

/-- The description of the interface. -/
def document : Value :=
  .object [
    ("openapi", .string "3.1.0"),
    ("info", info identification),
    ("paths", .object (paths.entries.map fun (path, methods) => (path, .object methods))),
    ("components", .object [
      ("schemas", .object (schemas.map fun s => (s.name, s.toJson)))]),
    ("tags", .array (tags.map fun (name, description) =>
      .object [("name", .string name), ("description", .string description)]))]

end Gatehouse.Api
