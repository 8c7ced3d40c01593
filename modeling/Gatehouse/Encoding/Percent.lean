import Gatehouse.Text.Bytes
import Gatehouse.Text.Split
import Gatehouse.Encoding.Hex

/-!
# Percent escapes and form fields

A percent sign and two hexadecimal digits stand for a byte.  Which characters of a text have to be
escaped depends on where in an address it stands.  Query strings are lists of fields
`name=value` joined by `&`, in which a plus sign stands for a space.
-/

namespace Gatehouse.Percent

/-- The value of a hexadecimal digit given as a byte. -/
def hexByte? (b : UInt8) : Option Nat :=
  Hex.value? (Char.ofNat b.toNat)

/-- Replace each complete escape by its byte; anything else stays. -/
def decode : Bytes → Bytes
  | [] => []
  | [x] => [x]
  | [x, y] => [x, y]
  | x :: y :: z :: rest =>
    if x = 0x25 then
      match hexByte? y, hexByte? z with
      | some hi, some lo => UInt8.ofNat (hi * 16 + lo) :: decode rest
      | _, _ => x :: decode (y :: z :: rest)
    else x :: decode (y :: z :: rest)
  termination_by bs => bs.length

/-- The escape of a byte, in upper-case digits. -/
def escape (b : UInt8) : List Char :=
  ['%', (Hex.digit (b.toNat / 16)).toUpper, (Hex.digit (b.toNat % 16)).toUpper]

/-- Write a text with its control characters, everything beyond ASCII and what `special` names
escaped. -/
def encode (special : Char → Bool) (cs : List Char) : List Char :=
  (utf8 (String.ofList cs)).flatMap fun b =>
    let c := Char.ofNat b.toNat
    if b < 0x20 || b ≥ 0x7F || special c then escape b else [c]

/-- The text of a form field: plus signs are spaces, then the escapes are replaced. -/
def fieldText (s : String) : String :=
  lossyText (decode ((utf8 s).map fun b => if b = 0x2B then 0x20 else b))

/-- The fields of a query string in order; empty pieces between `&` are no fields. -/
def formFields (query : String) : List (String × String) :=
  (Text.splitOn '&' query).filterMap fun piece =>
    if piece.isEmpty then none
    else
      match Text.cut? '=' piece with
      | some (name, value) => some (fieldText name, fieldText value)
      | none => some (fieldText piece, "")

end Gatehouse.Percent
