import Gatehouse.Text.Decimal

/-!
# JSON values

The value of a JSON document.  Members keep their order and may repeat a name; what a repeated
name means is for the reader of the value to say.  Whole numbers are exact as long as they fit
into 64 bits, signed or unsigned; every other number keeps its decimal digits and is never taken
for a whole number.

Text can be well formed and still denote no value: a string with half of a surrogate pair, a
number beyond the range of double precision, an array or object nested too deep.  Such a place
holds `unusable`.  It is skipped where the reader has no use for it and refused elsewhere.

Main definitions: `Value`, `Value.isUsable` and `Value.withinDepth`.
-/

namespace Gatehouse.Json

/-- A number: whole and within 64 bits, or a decimal fraction times a power of ten. -/
inductive Number where
  | whole (value : Int)
  | decimal (mantissa : Int) (exponent : Int)
  deriving DecidableEq, Repr

/-- A JSON value. -/
inductive Value where
  | null
  | bool (value : Bool)
  | number (value : Number)
  | string (value : String)
  | array (items : List Value)
  | object (members : List (String × Value))
  | unusable
  deriving Repr, Inhabited

/-- The whole number as a value. -/
def Value.int (i : Int) : Value :=
  .number (.whole i)

/-- The list of texts as a value. -/
def Value.strings (texts : List String) : Value :=
  .array (texts.map .string)

/-- A part that may be absent; `null` stands for an absent one. -/
def orNull {α : Type} (write : α → Value) : Option α → Value
  | none => .null
  | some part => write part

/-- The greatest depth to which arrays and objects may be nested. -/
def maxDepth : Nat := 127

mutual
/-- Replace the arrays and objects that are nested deeper than `depth`. -/
def Value.withinDepth (depth : Nat) : Value → Value
  | .array items =>
    match depth with
    | 0 => .unusable
    | depth + 1 => .array (itemsWithin depth items)
  | .object members =>
    match depth with
    | 0 => .unusable
    | depth + 1 => .object (membersWithin depth members)
  | v => v

/-- The items of an array with what is nested too deep replaced. -/
def itemsWithin (depth : Nat) : List Value → List Value
  | [] => []
  | v :: rest => v.withinDepth depth :: itemsWithin depth rest

/-- The members of an object with what is nested too deep replaced. -/
def membersWithin (depth : Nat) : List (String × Value) → List (String × Value)
  | [] => []
  | (name, v) :: rest => (name, v.withinDepth depth) :: membersWithin depth rest
end

mutual
/-- Does every part of the value denote something? -/
def Value.isUsable : Value → Bool
  | .array items => itemsUsable items
  | .object members => membersUsable members
  | .unusable => false
  | _ => true

/-- Are all items usable? -/
def itemsUsable : List Value → Bool
  | [] => true
  | v :: rest => v.isUsable && itemsUsable rest

/-- Are all members usable? -/
def membersUsable : List (String × Value) → Bool
  | [] => true
  | (_, v) :: rest => v.isUsable && membersUsable rest
end

/-- The member with the given name; of several the last one. -/
def Value.member? (name : String) : Value → Option Value
  | .object members => (members.reverse.find? (·.1 == name)).map (·.2)
  | _ => none

end Gatehouse.Json
