import Gatehouse.Http.Header
import Gatehouse.Text.Decimal
import Gatehouse.Text.Split

/-!
# Cookies and bearer credentials

A cookie is set by a line `name=value` with its attributes and sent back as a pair among others in
a `cookie` line.

Main definitions: `Cookie.header?`, `Cookie.find?` and `bearer?`.
-/

namespace Gatehouse.Http

/-- Where a cookie is sent and how it travels. -/
structure CookieScope where
  path : String
  domain : Option String
  secure : Bool
  deriving DecidableEq, Repr

/-- A cookie as the server sets it; scripts cannot read it and other sites cannot send it. -/
structure Cookie where
  name : String
  value : String
  /-- Seconds until the browser drops the cookie. -/
  maxAge : Nat
  scope : CookieScope
  deriving DecidableEq, Repr

namespace Cookie

/-- The text that sets the cookie. -/
def text (c : Cookie) : String :=
  c.name ++ "=" ++ c.value ++ "; Path=" ++ c.scope.path ++
    (match c.scope.domain with
      | some domain => "; Domain=" ++ domain
      | none => "") ++
    "; Max-Age=" ++ Decimal.natText c.maxAge ++ "; HttpOnly; SameSite=Lax" ++
    (if c.scope.secure then "; Secure" else "")

/-- The header value that sets the cookie, unless its text may not stand in a header. -/
def header? (c : Cookie) : Option Bytes :=
  fieldValue? (utf8 c.text)

/-- The cookie that makes the browser drop the one of that name and scope. -/
def cleared (name : String) (scope : CookieScope) : Cookie :=
  ⟨name, "", 0, scope⟩

/-- The pair of name and value in one piece of a `cookie` line, without the blanks around them. -/
def pair? (piece : String) : Option (String × String) :=
  (Text.cut? '=' (Text.trim piece)).map fun (name, value) => (Text.trim name, Text.trim value)

/-- The pairs in the readable `cookie` lines, in order. -/
def pairs (h : Headers) : List (String × String) :=
  ((h.values "cookie").filterMap readable?).flatMap fun line =>
    (Text.splitOn ';' line).filterMap pair?

/-- The first value that a name has, blank ones apart. -/
def find? (h : Headers) (name : String) : Option String :=
  ((pairs h).find? fun (n, v) => n == name && !v.isEmpty).map (·.2)

end Cookie

/-- The text after `Bearer` or `bearer` in the first `authorization` line. -/
def bearer? (h : Headers) : Option String := do
  let value ← h.first? "authorization"
  let text ← readable? value
  let chars := Text.trimChars text.toList
  let rest ← (Text.dropLead? "Bearer ".toList chars).or (Text.dropLead? "bearer ".toList chars)
  let token := Text.trim (String.ofList rest)
  if token.isEmpty then none else some token

end Gatehouse.Http
