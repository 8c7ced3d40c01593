import Gatehouse.CommandLine.Options
import Gatehouse.Logging.Export
import Gatehouse.Logging.Filter

/-!
# Launching the program

The arguments are read, logging is set up, and only then it is seen whether the options can be used.

Main definitions: `Launch`, `LaunchError` and `Launch.ofArguments`.
-/

namespace Gatehouse

open CommandLine (Options OptionsError UsageError)
open Logging (ExportError Exporter Filter)

/-- Why the program is not launched. -/
inductive LaunchError where
  | usage (error : UsageError)
  | exporting (error : ExportError)
  | options (error : OptionsError)
  deriving DecidableEq, Repr

/-- The code that the program ends with when its arguments do not let it run. -/
def CommandLine.UsageError.exitCode : UsageError → Nat
  | .helpRequested | .versionRequested => 0
  | _ => 2

/-- What a launched program runs with. -/
structure Launch where
  options : Options
  filter : Filter
  /-- Where spans are sent to. -/
  exporter : Option Exporter
  deriving Repr

/-- Launch the program with arguments and an environment. -/
def Launch.ofArguments (environment : String → Option String) (args : List String) :
    Except LaunchError Launch := do
  let given : CommandLine.Given ←
    (CommandLine.parse CommandLine.program environment args).mapError .usage
  let filter := Filter.ofSettings ((given.number? "verbose").getD 0) (environment "RUST_LOG")
  let exporter ←
    match environment "OTEL_EXPORTER_OTLP_ENDPOINT" with
    | none => .ok none
    | some endpoint =>
      ((Exporter.ofSettings endpoint (environment "OTEL_EXPORTER_OTLP_HEADERS")).map
        some).mapError LaunchError.exporting
  let options ← given.options.mapError .options
  return ⟨options, filter, exporter⟩

end Gatehouse
