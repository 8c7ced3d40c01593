import Gatehouse.Json.Record
import Gatehouse.Text.Split
import Gatehouse.Word

/-!
# Looking into documents

Parts of a document by name or by pointer.  A part that is missing counts as `null`, and one of
another kind than the one looked for counts as missing, so that every look-up has an answer; the
readers of `Record` are for documents that have to be right.

Main definitions:

- `Value.part` and the look-ups by kind, such as `Value.textAt?`.
- `Value.pointed?` follows a pointer such as `/paths/~1health/get`.
-/

namespace Gatehouse.Json.Value

/-- The member with a name, and `null` if there is none. -/
def part (v : Value) (name : String) : Value :=
  (v.member? name).getD .null

/-- Is there a member with a name that is not `null`? -/
def holds (v : Value) (name : String) : Bool :=
  match v.part name with
  | .null => false
  | _ => true

/-- The text under a name. -/
def textAt? (v : Value) (name : String) : Option String :=
  readString (v.part name)

/-- The text under a name; empty if there is none. -/
def textAt (v : Value) (name : String) : String :=
  (v.textAt? name).getD ""

/-- The truth value under a name. -/
def boolAt? (v : Value) (name : String) : Option Bool :=
  readBool (v.part name)

/-- Is `true` under a name? -/
def flagAt (v : Value) (name : String) : Bool :=
  v.boolAt? name == some true

/-- The whole number under a name. -/
def intAt? (v : Value) (name : String) : Option Int :=
  match v.part name with
  | .number (.whole i) => some i
  | _ => none

/-- The natural number under a name. -/
def natAt? (v : Value) (name : String) : Option Nat :=
  readNatBelow Word.bound64 (v.part name)

/-- The items of a list. -/
def items : Value → List Value
  | .array items => items
  | _ => []

/-- The items of the list under a name. -/
def itemsAt (v : Value) (name : String) : List Value :=
  (v.part name).items

/-- The texts in a list. -/
def texts (v : Value) : List String :=
  v.items.filterMap readString

/-- The texts in the list under a name. -/
def textsAt (v : Value) (name : String) : List String :=
  (v.part name).texts

/-- The value with another member at its end, if it is an object. -/
def withMember (v : Value) (name : String) (new : Value) : Value :=
  match v with
  | .object members => .object (members ++ [(name, new)])
  | v => v

/-- The value with what stands under a name replaced. -/
def replacing (v : Value) (name : String) (new : Value) : Value :=
  match v with
  | .object members => .object (members.map fun (n, v) => (n, if n = name then new else v))
  | v => v

/-! ## Pointers -/

/-- A step of a pointer as it is meant: `~1` stands for a slash and `~0` for a tilde. -/
def unescapedStep : List Char → List Char
  | '~' :: '1' :: rest => '/' :: unescapedStep rest
  | '~' :: '0' :: rest => '~' :: unescapedStep rest
  | c :: rest => c :: unescapedStep rest
  | [] => []

/-- The position that a step names: digits without zeros in front. -/
def position? (step : String) : Option Nat :=
  match step.toList with
  | ['0'] => some 0
  | '0' :: _ => none
  | digits => Decimal.nat? digits

/-- Take one step into a value. -/
def step? (v : Value) (step : String) : Option Value :=
  match v with
  | .array items => (position? step).bind fun i => items[i]?
  | .object _ => v.member? step
  | _ => none

/-- The part that a pointer leads to.  Each step follows a slash; no steps lead to the whole. -/
def pointed? (v : Value) (pointer : String) : Option Value :=
  match Text.splitOn '/' pointer with
  | "" :: steps =>
    steps.foldlM (fun v step => v.step? (String.ofList (unescapedStep step.toList))) v
  | _ => none

end Gatehouse.Json.Value
