import Gatehouse.Api.App
import Gatehouse.CommandLine.Options
import Gatehouse.Json.Parser
import Gatehouse.Store.Memory

/-!
# Starting up

The files that the options name are read and the application is put together.  The first thing that
is wrong ends the attempt; the order is that of `prepare`.

Main definitions:

- `logEntry` is what is logged at the start.
- `prepare` gives the application and the store that it starts with.
-/

namespace Gatehouse.Startup

open CommandLine (Options)
open Json (Reader Value)

/-- What is around the program when it starts. -/
structure Surroundings where
  /-- The text of a file. -/
  file : String → Option String
  /-- What the policy server at an address says. -/
  policy : String → Policy.Input → Except Policy.Failure (Option Policy.Answer)

/-- Why the program does not start. -/
inductive Error where
  | unreadable (path : String)
  | unparsable (path : String)
  | invalidDsn
  | unreachableStore
  | invalidRules
  | application (error : Api.AppError)
  deriving DecidableEq, Repr

/-- The wording of an error. -/
def Error.message : Error → String
  | .unreadable path => "Failed to read " ++ path
  | .unparsable path => "Failed to parse " ++ path
  | .invalidDsn => "Invalid --dsn"
  | .unreachableStore => "Failed to connect to database"
  | .invalidRules => "Invalid forward-auth rules"
  | .application error => error.message

/-! ## What is logged -/

/-- The address of the store without its password. -/
def redactedDsn (dsn : String) : String :=
  match Url.parse? dsn with
  | some url => (url.withPassword "REDACTED").text
  | none => "invalid-dsn"

/-- What is logged at the start. -/
def logEntry (o : Options) : Value :=
  .object [
    ("version", .string identification.version),
    ("port", .int o.port),
    ("dsn", .string (redactedDsn o.dsn)),
    ("public_url", .string o.config.publicUrl),
    ("algorithm", .string o.config.algorithm.name),
    ("permission_tree", .bool !o.treePaths.isEmpty),
    ("forward_auth_rules", .bool o.rulesPath.isSome),
    ("policy_engine", .bool o.policyUrl.isSome),
    ("trusted_proxies", .bool !o.trusted.networks.isEmpty),
    ("message", .string ("Starting " ++ identification.name))]

/-! ## Files -/

namespace Surroundings

/-- What is written in a file. -/
def load {α : Type} (s : Surroundings) (read : Reader α) (path : String) : Except Error α :=
  match s.file path with
  | none => .error (.unreadable path)
  | some text =>
    match (Json.parse? text).bind read with
    | some a => .ok a
    | none => .error (.unparsable path)

/-- What is written in a file that may not be asked for. -/
def loadOr {α : Type} (s : Surroundings) (read : Reader α) (default : α) :
    Option String → Except Error α
  | some path => s.load read path
  | none => .ok default

/-- The settings with the overrides of lifetimes. -/
def config (s : Surroundings) (o : Options) : Except Error Config := do
  let ttlOverrides ← s.loadOr (Json.readList TtlOverride.ofJson?) [] o.overridesPath
  return { o.config with ttlOverrides }

/-- The store, which has to be one in memory. -/
def store (s : Surroundings) (o : Options) : Except Error Store.Memory :=
  match Url.parse? o.dsn with
  | none => .error .invalidDsn
  | some url =>
    if url.scheme == "memory" then
      (s.loadOr Store.Seed.ofJson? ⟨[], []⟩ o.seed).map Store.Memory.ofSeed
    else .error .unreachableStore

/-- How permissions are expanded: through all trees together, if there are any. -/
def resolver (s : Surroundings) (o : Options) : Except Error Permission.Resolver := do
  if o.treePaths.isEmpty then return .flat
  let add (tree : Permission.Tree) (path : String) : Except Error Permission.Tree :=
    (s.load Permission.Tree.ofJson? path).map tree.merge
  return .tree (← o.treePaths.foldlM add .leaf)

/-- The rules for delegated requests. -/
def rules (s : Surroundings) (o : Options) : Except Error Forward.Rules :=
  match o.rulesPath with
  | none => .ok .empty
  | some path =>
    match s.load Forward.WrittenRules.ofJson? path with
    | .error e => .error e
    | .ok written =>
      match written.compile with
      | .ok rules => .ok rules
      | .error _ => .error .invalidRules

end Surroundings

/-- The application and the store that it starts with. -/
def prepare (s : Surroundings) (o : Options) : Except Error (Api.App × Store.Memory) := do
  let config ← s.config o
  let store ← s.store o
  let resolver ← s.resolver o
  let rules ← s.rules o
  let engine : Forward.Engine :=
    ⟨.ofConfig config, rules, resolver, o.policyUrl.map s.policy, o.trusted⟩
  match Api.App.ofEngine engine with
  | .ok app => return (app, store)
  | .error e => throw (.application e)

end Gatehouse.Startup
