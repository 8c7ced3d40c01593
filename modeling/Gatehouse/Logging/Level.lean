import Gatehouse.Text.Blank
import Gatehouse.Text.Decimal
import Gatehouse.Word

/-!
# Levels of logging

A level is as verbose as the levels before it together.  A threshold is a level up to which events
are let through, or none.

Main definitions: `Level`, `Threshold`, `Threshold.ofText?` and `Level.ofVerbosity`.
-/

namespace Gatehouse.Logging

/-- How much an event matters. -/
inductive Level where
  | error
  | warn
  | info
  | debug
  | trace
  deriving DecidableEq, Repr

namespace Level

/-- The levels, the least verbose first. -/
def all : List Level := [.error, .warn, .info, .debug, .trace]

/-- The name of a level. -/
def name : Level → String
  | .error => "ERROR"
  | .warn => "WARN"
  | .info => "INFO"
  | .debug => "DEBUG"
  | .trace => "TRACE"

/-- The place of a level among all levels. -/
def rank (level : Level) : Nat :=
  all.idxOf level

/-- The level for the number of times that more was asked for. -/
def ofVerbosity : Nat → Level
  | 0 => .error
  | 1 => .warn
  | 2 => .info
  | 3 => .debug
  | _ => .trace

end Level

/-- The most verbose level that is let through; there may be none. -/
abbrev Threshold : Type := Option Level

/-- The threshold that a name, in any case of its letters, or a number from zero to five writes. -/
def Threshold.ofText? (text : String) : Option Threshold :=
  match Decimal.natBelow? Word.bound64 text with
  | some 0 => some none
  | some (n + 1) => (Level.all[n]?).map some
  | none =>
    if Text.eqIgnoreCase text "off" then some none
    else (Level.all.find? fun level => Text.eqIgnoreCase level.name text).map some

end Gatehouse.Logging
