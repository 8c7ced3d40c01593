import Gatehouse.Encoding.Base64
import Gatehouse.Http.Header
import Gatehouse.Http.Target
import Gatehouse.Net.ServerName
import Gatehouse.Table
import Gatehouse.Text.Split
import Gatehouse.Word

/-!
# Exporting spans

Spans can be sent to a collector, together with metadata: pairs of a key and a value.  The values of
keys that end in `-bin` are bytes and are written in Base64.

Main definitions:

- `ExportError`, with its wording in `ExportError.message`.
- `Exporter.ofSettings` makes an exporter from the address and the metadata that are set.
-/

namespace Gatehouse.Logging

/-- Why spans cannot be exported. -/
inductive ExportError where
  | undecodableValue (key : String)
  | invalidBinaryKey (key : String)
  | invalidTextKey (key : String)
  | invalidTextValue (key : String)
  | unusableEndpoint
  deriving DecidableEq, Repr

/-- The wording of an error. -/
def ExportError.message : ExportError → String
  | .undecodableValue key => "failed to base64-decode value for key " ++ key
  | .invalidBinaryKey key => "invalid binary metadata key " ++ key
  | .invalidTextKey key => "invalid ASCII metadata key " ++ key
  | .invalidTextValue key => "invalid ASCII metadata value for key " ++ key
  | .unusableEndpoint => "failed to build OTLP span exporter"

/-- Where spans are sent, and what is sent along. -/
structure Exporter where
  endpoint : String
  /-- The name that the collector has to prove, if the connection is secured. -/
  serverName : Option String
  metadata : Table Bytes
  deriving Repr

namespace Exporter

/-- The address with its scheme; without one the connection is secured. -/
def normalized (endpoint : String) : String :=
  if Text.startsWith "http://" endpoint || Text.startsWith "https://" endpoint then endpoint
  else "https://" ++ String.ofList (endpoint.toList.reverse.dropWhile (· == '/')).reverse

/-- The name of the server at a secured address. -/
def serverName? (endpoint : String) : Option String := do
  let rest ← Text.dropLead? "https://".toList endpoint.toList
  let host := rest.takeWhile fun c => c != '/' && c != ':'
  if host.isEmpty then none else some (String.ofList host)

/-- The pairs in a text such as `key=value,key=value`. -/
def pairs (text : String) : Table String :=
  Table.ofList ((Text.splitOn ',' text).filterMap fun pair =>
    (Text.cut? '=' pair).map fun (key, value) => (Text.trim key, Text.trim value))

/-- The value of a key as it is sent. -/
def valueBytes (key value : String) : Except ExportError Bytes :=
  if Text.endsWith "-bin" key then
    match Base64.decodePadded? Base64.standard value, Http.fieldName? key with
    | none, _ => .error (.undecodableValue key)
    | _, none => .error (.invalidBinaryKey key)
    | some bytes, some _ => .ok bytes
  else
    match Http.fieldName? key, Http.fieldValue? (utf8 value) with
    | none, _ => .error (.invalidTextKey key)
    | _, none => .error (.invalidTextValue key)
    | some _, some bytes => .ok bytes

/-- The metadata that some pairs make. -/
def metadataOf (table : Table String) : Except ExportError (Table Bytes) := do
  let entries ← table.entries.mapM fun (key, value) => do
    let key := Text.lowerAscii key
    return (key, ← valueBytes key value)
  return Table.ofList entries

/-- Can requests be sent to the address? -/
def isUsable (endpoint : String) : Bool :=
  endpoint.utf8ByteSize < Word.bound16 - 1 &&
    ((Text.cutAt? "://".toList endpoint.toList).any fun (_, rest) => Http.isTarget rest) &&
    ((serverName? endpoint).all Net.isServerName)

/-- The exporter for an address and metadata. -/
def ofSettings (endpoint : String) (metadata : Option String) : Except ExportError Exporter := do
  let endpoint := normalized endpoint
  let metadata ← metadataOf (pairs (metadata.getD ""))
  if isUsable endpoint then return ⟨endpoint, serverName? endpoint, metadata⟩
  else throw .unusableEndpoint

end Exporter

end Gatehouse.Logging
