import Gatehouse.Logging.Level
import Gatehouse.Table
import Gatehouse.Text.Split
import Gatehouse.Unicode.Category

/-!
# Filters of events

A filter says for each part of the program up to which level its events are let through.  It is
written as directives with commas between them: a level, the name of a part, or both with an equals
sign between them.  A part is meant by every beginning of its name, and the longest one counts; a
level alone is meant for all parts.

A directive can also name a span in brackets.  It says nothing about events outside of that span.

Main definitions:

- `Directive` and `Directive.ofText?`.
- `Filter`, `Filter.ofText` and `Filter.threshold`.

Main results:

- `Filter.threshold_eq_none_of_no_rule`: where no rule applies, nothing is let through.
-/

namespace Gatehouse.Logging

/-- A directive. -/
inductive Directive where
  /-- Events of the parts whose names begin with the target. -/
  | events (target : String) (threshold : Threshold)
  /-- Only what happens in some span. -/
  | span
  deriving DecidableEq, Repr

namespace Directive

/-- The threshold after an equals sign; without one everything is let through. -/
def threshold? (text : String) : Option Threshold :=
  if text.isEmpty then some (some .trace) else Threshold.ofText? text

/-- Can a directive begin with the character? -/
def isStart (c : Char) : Bool :=
  c == '-' || c == ':' || c == '_' || Unicode.alphabetic.contains c.toNat ||
    (Unicode.groupRanges 'N').contains c.toNat

/-- What follows the fields of a span in braces, of which none is empty. -/
def afterFields? (cs : List Char) : Option (List Char) := do
  let (fields, rest) ← Text.cutChars? '}' cs
  if fields.isEmpty then none else Text.dropLead? [']'] rest

/-- What follows the opening bracket of a span: its name, its fields and perhaps a threshold. -/
def span? (cs : List Char) : Option Directive := do
  let name := cs.takeWhile fun c => c != ']' && c != '\x7b'
  let rest ←
    match cs.drop name.length with
    | ']' :: rest => some rest
    | '\x7b' :: fields => afterFields? fields
    | _ => none
  match rest with
  | [] => return .span
  | '=' :: level =>
    let _ ← threshold? (String.ofList level)
    return .span
  | _ => none

/-- The directive that a text writes.  Blanks around it belong to its parts, so that no level can be
read there. -/
def ofText? (text : String) : Option Directive := do
  let cs := Text.trimChars text.toList
  let isPadded := cs.length != text.length
  match cs with
  | [] => none
  | '[' :: rest => span? rest
  | first :: _ =>
    if !isStart first then none
    else
      let name := cs.takeWhile fun c => c != '=' && c != '['
      match cs.drop name.length with
      | '=' :: level =>
        if isPadded then none
        else (threshold? (String.ofList level)).map (.events (String.ofList name))
      | '[' :: rest => span? rest
      | _ =>
        match Threshold.ofText? text with
        | some threshold => some (.events "" threshold)
        | none => some (.events text (some .trace))

end Directive

/-- The thresholds for the beginnings of names. -/
structure Filter where
  rules : Table Threshold
  deriving DecidableEq, Repr

namespace Filter

/-- The filter that follows some directives; of those for one target the last one counts. -/
def ofDirectives (directives : List Directive) : Filter :=
  ⟨directives.foldl (fun rules directive =>
    match directive with
    | .events target threshold => rules.put target threshold
    | .span => rules) .empty⟩

/-- Set a threshold. -/
def limit (f : Filter) (target : String) (threshold : Threshold) : Filter :=
  ⟨f.rules.put target threshold⟩

/-- The filter that a text writes.  What is no directive is passed over; if no directive is left,
the default holds for all parts. -/
def ofText (default : Threshold) (text : String) : Filter :=
  match ((Text.splitOn ',' text).filter (!·.isEmpty)).filterMap Directive.ofText? with
  | [] => (ofDirectives []).limit "" default
  | directives => ofDirectives directives

/-- The rules for beginnings of a name. -/
def applicable (f : Filter) (name : String) : List (String × Threshold) :=
  f.rules.entries.filter fun (target, _) => Text.startsWith target name

/-- The more special one of two rules. -/
def moreSpecial (r s : String × Threshold) : String × Threshold :=
  if r.1.utf8ByteSize < s.1.utf8ByteSize then s else r

/-- The threshold for a part of the program. -/
def threshold (f : Filter) (name : String) : Threshold :=
  match f.applicable name with
  | [] => none
  | rule :: rules => (rules.foldl moreSpecial rule).2

/-- Does the filter let events of a part and level through? -/
def admits (f : Filter) (name : String) (level : Level) : Bool :=
  (f.threshold name).any fun most => level.rank ≤ most.rank

/-- Where no rule applies, nothing is let through. -/
theorem threshold_eq_none_of_no_rule {f : Filter} {name : String}
    (h : ∀ rule ∈ f.rules.entries, Text.startsWith rule.1 name = false) :
    f.threshold name = none := by
  have : f.applicable name = [] := by
    simp only [applicable, List.filter_eq_nil_iff]
    intro rule hrule
    simp [h rule hrule]
  simp [threshold, this]

end Filter

/-- What the program itself lets through of the libraries that it uses. -/
def libraryLimits : List (String × Level) :=
  [("hyper", .error), ("tokio", .error), ("sqlx", .warn), ("opentelemetry_sdk", .warn)]

/-- The filter of the program: a text refines what the verbosity gives, and the libraries that it
uses are kept quiet. -/
def Filter.ofSettings (verbosity : Nat) (text : Option String) : Filter :=
  libraryLimits.foldl (fun f (target, level) => f.limit target (some level))
    (.ofText (some (.ofVerbosity verbosity)) (text.getD ""))

end Gatehouse.Logging
