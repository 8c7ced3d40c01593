import Gatehouse.Encoding.Hex
import Gatehouse.Http.Response
import Gatehouse.Json.Lookup
import Gatehouse.Json.Parser

/-!
# Messages as documents

Headers and responses as JSON.  Bytes that are text are written as that text, all others in
hexadecimal.  The header of a response is an object from names to the lists of their values; the
header of a request is a list of lines, so that the order of all its lines is known.

Main definitions: `bytesToJson`, `bytesOfJson`, `Headers.toJson`, `Headers.ofJson?` and
`Response.toJson`.
-/

namespace Gatehouse.Http

open Json (Value)

/-- Bytes as JSON. -/
def bytesToJson (bs : Bytes) : Value :=
  match text? bs with
  | some text => .string text
  | none => .object [("hex", .string (Hex.encode bs))]

/-- The bytes in a value; anything else than bytes counts as none. -/
def bytesOfJson : Value → Bytes
  | .string text => utf8 text
  | v => Hex.decode (v.textAt "hex")

/-- Lines that tell of the transfer and not of the message. -/
def isTransferLine (name : String) : Bool :=
  name == "content-length" || name == "date"

/-- A header as JSON, without the lines that tell of the transfer. -/
def Headers.toJson (h : Headers) : Value :=
  .object ((h.names.filter (!isTransferLine ·)).map fun name =>
    (name, .array ((h.values name).map bytesToJson)))

/-- A line of a header: a name and a value. -/
def lineOfJson? : Json.Reader (String × Bytes)
  | .array [.string name, value] => do
    let name ← fieldName? name
    let value ← fieldValue? (bytesOfJson value)
    return (name, value)
  | _ => none

/-- The header in a value, unless one of its lines may not stand in a header. -/
def Headers.ofJson? : Json.Reader Headers := fun v =>
  (v.items.mapM lineOfJson?).map Headers.mk

/-- Is the body of the response a JSON document? -/
def Response.holdsJson (r : Response) : Bool :=
  ((r.headers.first? "content-type").bind text?).any (Text.startsWith "application/json") &&
    !r.body.isEmpty

/-- The body of a response: the document in it, else its text. -/
def Response.bodyValue (r : Response) : Value :=
  if r.holdsJson then (Json.parse? r.body).getD (.string r.body) else .string r.body

/-- A response as JSON. -/
def Response.toJson (r : Response) : Value :=
  .object [("status", .int r.status), ("headers", r.headers.toJson), ("body", r.bodyValue)]

end Gatehouse.Http
