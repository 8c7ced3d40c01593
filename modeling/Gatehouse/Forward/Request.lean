import Gatehouse.Http.Cookie
import Gatehouse.Net.ClientAddress
import Gatehouse.Url.Parser

/-!
# Delegated requests

A reverse proxy asks about a request that it has received.  It describes the request in the
`x-forwarded` lines of its own header, beside the credentials of the client.

Main definitions:

- `Request.ofHeaders` reads the description, `Request.url` gives the address asked for.
- `Request.returnTarget` is the address to come back to after a login.
-/

namespace Gatehouse.Forward

open Net (Address TrustedNetworks)

/-- A request as the proxy describes it. -/
structure Request where
  method : String
  scheme : String
  host : String
  path : String
  query : String
  client : Option Address
  headers : Http.Headers
  deriving DecidableEq, Repr

/-- The readable text of the first line of a name, without blanks around it; empty if there is
none. -/
def lineText (headers : Http.Headers) (name : String) : String :=
  match (headers.first? name).bind Http.readable? with
  | some text => Text.trim text
  | none => ""

/-- The text of a line, unless it is blank. -/
def lineText? (headers : Http.Headers) (name : String) : Option String :=
  let text := lineText headers name
  if text.isEmpty then none else some text

namespace Request

/-- The request that a header describes.  The method is `GET` unless another one is given. -/
def ofHeaders (headers : Http.Headers) (peer : Option Address) (trusted : TrustedNetworks) :
    Request :=
  let uri := lineText headers "x-forwarded-uri"
  let (path, query) := (Text.cut? '?' uri).getD (uri, "")
  let method := Text.upperAscii (lineText headers "x-forwarded-method")
  { method := if method.isEmpty then "GET" else method
    scheme := lineText headers "x-forwarded-proto"
    host := lineText headers "x-forwarded-host"
    path
    query
    client := trusted.clientAddress headers peer
    headers }

/-- The address asked for. -/
def url (r : Request) : String :=
  (if r.scheme.isEmpty then "http" else r.scheme) ++ "://" ++ r.host ++ r.path ++
    if r.query.isEmpty then "" else "?" ++ r.query

/-- Does the client take pages? -/
def wantsHtml (r : Request) : Bool :=
  match lineText? r.headers "accept" with
  | some accept => (Text.cutAt? "text/html".toList accept.toList).isSome
  | none => false

/-- An address in a line of the header. -/
def linkIn? (r : Request) (name : String) : Option String :=
  (lineText? r.headers name).filter fun text => (Url.parse? text).isSome

/-- Where to come back to after a login.  Browsers come back to the address asked for, scripts to
the page or site that they were called from. -/
def returnTarget (r : Request) : String :=
  if r.wantsHtml then r.url
  else ((r.linkIn? "referer").or (r.linkIn? "origin")).getD r.url

end Request

end Gatehouse.Forward
