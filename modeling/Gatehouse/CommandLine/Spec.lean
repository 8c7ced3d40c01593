import Gatehouse.Text.Blank
import Gatehouse.Text.Decimal
import Gatehouse.Text.Split

/-!
# Options of a command

An option is given on the command line by its long or short name, or else by a variable of the
environment; if it is not given, its default counts.

Main definitions:

- `Spec` describes an option and `Kind` what it takes.
- `Kind.read` reads the text that is given for an option.
-/

namespace Gatehouse.CommandLine

/-- Why the arguments cannot be used, or what they ask for instead. -/
inductive UsageError where
  | unknownArgument
  | missingArgument
  /-- No value, or not one of the values that there are. -/
  | invalidValue
  /-- A value that cannot be read. -/
  | unreadableValue
  /-- A value for an option that takes none. -/
  | tooManyValues
  | repeatedOption
  | helpRequested
  | versionRequested
  deriving DecidableEq, Repr

/-- The wording of an error. -/
def UsageError.message : UsageError → String
  | .unknownArgument => "unexpected argument"
  | .missingArgument => "a required argument was not provided"
  | .invalidValue => "invalid value for an argument"
  | .unreadableValue => "a value cannot be read"
  | .tooManyValues => "a value for an argument that takes none"
  | .repeatedOption => "an argument cannot be used multiple times"
  | .helpRequested => "help was requested"
  | .versionRequested => "the version was requested"

/-- What an option stands for. -/
inductive Datum where
  | truth (value : Bool)
  | number (value : Nat)
  | text (value : String)
  | texts (values : List String)
  deriving DecidableEq, Repr

/-- What an option takes. -/
inductive Kind where
  /-- Nothing; it is given or not. -/
  | flag
  /-- Nothing; how often it is given counts, up to a limit.  Elsewhere the number or its name is
  given. -/
  | count (limit : Nat) (names : List String)
  | text
  /-- Texts with commas between them. -/
  | list
  /-- A number below a bound.  Zero may have a minus sign if `signed` holds. -/
  | number (bound : Nat) (signed : Bool)
  /-- Nothing; it asks for help. -/
  | help
  /-- Nothing; it asks for the version. -/
  | version
  deriving DecidableEq, Repr

/-- Does an option of this kind take a value? -/
def Kind.takesValue : Kind → Bool
  | .text | .list | .number .. => true
  | _ => false

/-- A number up to a limit, or the place of a name, in any case of its letters. -/
def countOf? (limit : Nat) (names : List String) (text : String) : Option Nat :=
  (Decimal.natBelow? (limit + 1) text).or (names.findIdx? (Text.eqIgnoreCase · text))

/-- A number below a bound. -/
def numberOf? (bound : Nat) (signed : Bool) (text : String) : Option Nat :=
  if signed then
    match Decimal.int? text with
    | some (.ofNat n) => if n < bound then some n else none
    | _ => none
  else Decimal.natBelow? bound text

/-- What a text given for an option stands for. -/
def Kind.read (k : Kind) (text : String) : Except UsageError Datum :=
  match k with
  | .flag =>
    if text == "true" then .ok (.truth true)
    else if text == "false" then .ok (.truth false)
    else .error .invalidValue
  | .count limit names =>
    match countOf? limit names text with
    | some n => .ok (.number n)
    | none => .error .unreadableValue
  | .number bound signed =>
    match numberOf? bound signed text with
    | some n => .ok (.number n)
    | none => .error .unreadableValue
  | .list => .ok (.texts (Text.splitOn ',' text))
  | .text | .help | .version => .ok (.text text)

/-- An option. -/
structure Spec where
  /-- The long name. -/
  name : String
  short : Option Char
  /-- The variable of the environment. -/
  envName : Option String
  kind : Kind
  default : Option String
  isRequired : Bool
  help : String
  deriving DecidableEq, Repr

end Gatehouse.CommandLine
