import Gatehouse.Access.Occasion
import Gatehouse.Http.Document
import Gatehouse.Json.Printer
import Gatehouse.Launch
import Gatehouse.Startup

/-!
# The program

The program starts as its command line says and then answers requests.  A listener hands it each
request as a line of JSON, with the time in milliseconds, and takes the response as a line of JSON.
-/

namespace Gatehouse

open Json (Value)

/-- The request in a line from the listener, and its time. -/
def readRequest? (line : String) : Option (Nat × Api.Request) := do
  let v ← Json.parse? line
  let time ← v.natAt? "time"
  let headers ← Http.Headers.ofJson? (v.part "headers")
  let method := (v.textAt? "method").getD "GET"
  let peer := (v.textAt? "peer").bind Net.Address.ofText?
  return (time, ⟨method, v.textAt "path", headers, Http.bytesOfJson (v.part "body"), peer⟩)

/-- Random bytes. -/
def randomBytes (count : Nat) : IO Bytes := do
  return (← IO.getRandomBytes (USize.ofNat count)).toList

/-- Answer requests until there are no more lines. -/
partial def answerRequests (app : Api.App) (store : Store.Memory) : IO Unit := do
  let line ← (← IO.getStdin).getLine
  if line.isEmpty then return
  match readRequest? line with
  | none =>
    IO.eprintln "not a request"
    answerRequests app store
  | some (time, request) =>
    let occasion := Access.Occasion.ofRandom time (← randomBytes Access.Occasion.randomCount)
    let freshId := Identifier.sortable time (← randomBytes 10)
    let (served, store) := (app.serve occasion freshId request).run Store.Memory.answer store
    IO.println served.response.toJson.render
    (← IO.getStdout).flush
    answerRequests app store

/-- The variables of the environment that the program looks at. -/
def readEnvironment : IO (List (String × String)) := do
  let names := CommandLine.program.filterMap (·.envName) ++
    ["RUST_LOG", "OTEL_EXPORTER_OTLP_ENDPOINT", "OTEL_EXPORTER_OTLP_HEADERS"]
  names.filterMapM fun name => do
    return (← IO.getEnv name).map fun text => (name, text)

/-- The texts of the files that the options name, as far as they can be read. -/
def readFiles (o : CommandLine.Options) : IO (List (String × String)) := do
  let paths := o.overridesPath.toList ++ o.seed.toList ++ o.treePaths ++ o.rulesPath.toList
  paths.filterMapM fun (path : String) => do
    try
      return some (path, ← IO.FS.readFile path)
    catch _ =>
      return none

/-- Start up and answer requests. -/
def runServer (launch : Launch) : IO UInt32 := do
  if launch.filter.admits identification.name .info then
    IO.eprintln (Startup.logEntry launch.options).render
  let files ← readFiles launch.options
  let around : Startup.Surroundings :=
    ⟨fun path => files.lookup path, fun _ _ => .error .unreachable⟩
  match Startup.prepare around launch.options with
  | .error e =>
    IO.eprintln ("Error: " ++ e.message)
    return 1
  | .ok (app, store) =>
    answerRequests app store
    return 0

end Gatehouse

open Gatehouse in
/-- The program. -/
def main (args : List String) : IO UInt32 := do
  let environment ← readEnvironment
  match Launch.ofArguments (fun name => environment.lookup name) args with
  | .ok launch => runServer launch
  | .error (.usage e) =>
    match e with
    | .helpRequested => IO.println CommandLine.helpText
    | .versionRequested => IO.println (identification.name ++ " " ++ identification.version)
    | e => IO.eprintln ("error: " ++ e.message)
    return UInt32.ofNat e.exitCode
  | .error (.exporting e) =>
    IO.eprintln ("Error: " ++ e.message)
    return 1
  | .error (.options e) =>
    IO.eprintln ("Error: " ++ e.message)
    return 1
