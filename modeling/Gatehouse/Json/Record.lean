import Gatehouse.Json.Value
import Gatehouse.Table
import Gatehouse.Word

/-!
# Reading typed data from JSON values

A reader takes a value to the datum that it describes, or to nothing.  A record is described by an
object, whose members stand in any order and whose unknown members are skipped, or by an array
that lists the fields in their order.  A known member that stands twice is refused.

Main definitions: `Record.ofValue?` and the field readers `required`, `optional` and `orElse`.
-/

namespace Gatehouse.Json

/-- A reader of a datum. -/
abbrev Reader (α : Type) := Value → Option α

/-- A text. -/
def readString : Reader String
  | .string s => some s
  | _ => none

/-- A truth value. -/
def readBool : Reader Bool
  | .bool b => some b
  | _ => none

/-- A whole number within bounds, both included. -/
def readInt (low high : Int) : Reader Int
  | .number (.whole i) => if low ≤ i ∧ i ≤ high then some i else none
  | _ => none

/-- A signed number of 64 bits. -/
def readInt64 : Reader Int :=
  readInt Word.firstSigned64 Word.lastSigned64

/-- A natural number below a bound. -/
def readNatBelow (bound : Nat) : Reader Nat
  | .number (.whole (.ofNat n)) => if n < bound then some n else none
  | _ => none

/-- Any value that denotes something. -/
def readAny : Reader Value := fun v =>
  if v.isUsable then some v else none

/-- A datum, or nothing for `null`. -/
def readNullable {α : Type} (read : Reader α) : Reader (Option α)
  | .null => some none
  | v => (read v).map some

/-- A list of data of one kind. -/
def readList {α : Type} (read : Reader α) : Reader (List α)
  | .array items => items.mapM read
  | _ => none

/-- A table from names to data; of members with one name the last one counts. -/
def readTable {α : Type} (read : Reader α) : Reader (Table α)
  | .object members => do
    let entries ← members.mapM fun (name, v) => (read v).map (name, ·)
    return Table.ofList entries
  | _ => none

/-- The fields of a record that a value describes. -/
structure Record where
  /-- Are the fields given by name? -/
  named : Bool
  fields : List (String × Value)

/-- The record with the given fields, in their order, that a value describes. -/
def Record.ofValue? (names : List String) : Value → Option Record
  | .object members =>
    let known := members.filter fun m => names.contains m.1
    if (known.map (·.1)).Nodup then some ⟨true, known⟩ else none
  | .array items =>
    if items.length ≤ names.length then some ⟨false, names.zip items⟩ else none
  | _ => none

/-- The value of a field. -/
def Record.value? (r : Record) (name : String) : Option Value :=
  (r.fields.find? (·.1 == name)).map (·.2)

/-- A field that has to be there. -/
def Record.required {α : Type} (r : Record) (name : String) (read : Reader α) : Option α :=
  (r.value? name).bind read

/-- A field that may be missing among named fields, and may be `null`. -/
def Record.optional {α : Type} (r : Record) (name : String) (read : Reader α) :
    Option (Option α) :=
  match r.value? name with
  | some v => readNullable read v
  | none => if r.named then some none else none

/-- A field with a default for when it is missing. -/
def Record.orElse {α : Type} (r : Record) (name : String) (default : α) (read : Reader α) :
    Option α :=
  match r.value? name with
  | some v => read v
  | none => some default

end Gatehouse.Json
