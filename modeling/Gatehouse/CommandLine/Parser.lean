import Gatehouse.CommandLine.Spec
import Gatehouse.Table

/-!
# Reading the command line

Arguments are read from left to right.  An option that takes a value gets it from behind an equals
sign, from the rest of its cluster of short names, or from the next argument; such a value is looked
at only when the next option comes or the arguments end.  Nothing but options is taken.

What the arguments leave open is filled in from the environment and then from the defaults.

Main definitions: `Progress`, `Progress.step` and `parse`.
-/

namespace Gatehouse.CommandLine

/-- How far the arguments have been read. -/
structure Progress where
  given : Table Datum
  /-- The last option with the value that it has got so far. -/
  pending : Option (Spec × Option String)
  /-- Has `--` been passed, after which there are no options? -/
  optionsEnded : Bool
  deriving Repr

namespace Progress

/-- Nothing has been read. -/
def start : Progress := ⟨.empty, none, false⟩

/-- Take a text for an option. -/
def record (p : Progress) (spec : Spec) (text : String) : Except UsageError Progress := do
  let datum ← spec.kind.read text
  return { p with given := p.given.put spec.name datum }

/-- Take the value of the pending option. -/
def settle (p : Progress) : Except UsageError Progress :=
  match p.pending with
  | none => .ok p
  | some (_, none) => .error .invalidValue
  | some (spec, some text) =>
    if p.given.contains spec.name then .error .repeatedOption
    else { p with pending := none }.record spec text

/-- An option with its value.  It may be given once. -/
def takeValue (p : Progress) (spec : Spec) (text : String) : Except UsageError Progress := do
  let p ← p.settle
  { p with pending := some (spec, some text) }.settle

/-- An option whose value is still to come. -/
def awaitValue (p : Progress) (spec : Spec) : Except UsageError Progress := do
  let p ← p.settle
  return { p with pending := some (spec, none) }

/-- An option that takes no value. -/
def takeSwitch (p : Progress) (spec : Spec) : Except UsageError Progress := do
  let p ← p.settle
  match spec.kind with
  | .help => .error .helpRequested
  | .version => .error .versionRequested
  | .count .. =>
    let before := match p.given.find? spec.name with
      | some (.number n) => n
      | _ => 0
    p.record spec (Decimal.natText (before + 1))
  | _ => if p.given.contains spec.name then .error .repeatedOption else p.record spec "true"

/-- An argument that begins with two dashes. -/
def stepLong (specs : List Spec) (p : Progress) (body : String) : Except UsageError Progress :=
  let (name, value) :=
    match Text.cut? '=' body with
    | some (name, value) => (name, some value)
    | none => (body, none)
  match specs.find? (·.name == name), value with
  | none, _ => .error .unknownArgument
  | some spec, some text =>
    if spec.kind.takesValue then p.takeValue spec text else .error .tooManyValues
  | some spec, none => if spec.kind.takesValue then p.awaitValue spec else p.takeSwitch spec

/-- A cluster of short names.  What follows the name of an option that takes a value is that
value, with or without an equals sign. -/
def stepShort (specs : List Spec) (p : Progress) : List Char → Except UsageError Progress
  | [] => .ok p
  | c :: rest =>
    match specs.find? (·.short == some c) with
    | none => .error .unknownArgument
    | some spec =>
      if spec.kind.takesValue then
        match rest with
        | [] => p.awaitValue spec
        | '=' :: value => p.takeValue spec (String.ofList value)
        | value => p.takeValue spec (String.ofList value)
      else do
        let p ← p.takeSwitch spec
        stepShort specs p rest

/-- An argument that is no option. -/
def stepOperand (p : Progress) (arg : String) : Except UsageError Progress :=
  match p.pending with
  | some (spec, none) => .ok { p with pending := some (spec, some arg) }
  | _ => .error .unknownArgument

/-- Read an argument. -/
def step (specs : List Spec) (p : Progress) (arg : String) : Except UsageError Progress :=
  if p.optionsEnded then .error .unknownArgument
  else
    match arg.toList with
    | ['-', '-'] => .ok { p with optionsEnded := true }
    | '-' :: '-' :: body => stepLong specs p (String.ofList body)
    | '-' :: c :: rest => stepShort specs p (c :: rest)
    | _ => p.stepOperand arg

end Progress

/-- Fill in an option that is not given. -/
def fillIn (text : Spec → Option String) (given : Table Datum) (spec : Spec) :
    Except UsageError (Table Datum) :=
  if given.contains spec.name then .ok given
  else
    match text spec with
    | some text => (spec.kind.read text).map fun datum => given.put spec.name datum
    | none => .ok given

/-- What the options stand for, as far as they are given or have defaults. -/
def parse (specs : List Spec) (environment : String → Option String) (args : List String) :
    Except UsageError (Table Datum) := do
  let p ← args.foldlM (Progress.step specs) .start
  let p ← p.settle
  let given ← specs.foldlM (fillIn (·.envName.bind environment)) p.given
  if specs.any fun spec => spec.isRequired && !given.contains spec.name then
    throw .missingArgument
  specs.foldlM (fillIn (·.default)) given

end Gatehouse.CommandLine
