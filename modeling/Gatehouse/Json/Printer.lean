import Gatehouse.Json.Value
import Gatehouse.Encoding.Hex

/-!
# The compact text of a JSON value

Members in their order, no blanks between the parts.  In strings the quote, the backslash and the
control characters below the blank are escaped, and nothing else.

Main definitions: `Value.chars` and `Value.render`.
-/

namespace Gatehouse.Json

/-- A character as it stands in a string. -/
def escapeChar (c : Char) : List Char :=
  if c = '"' then ['\\', '"']
  else if c = '\\' then ['\\', '\\']
  else if c = '\x08' then ['\\', 'b']
  else if c = '\x0C' then ['\\', 'f']
  else if c = '\n' then ['\\', 'n']
  else if c = '\r' then ['\\', 'r']
  else if c = '\t' then ['\\', 't']
  else if c.toNat < 0x20 then
    ['\\', 'u', '0', '0', Hex.digit (c.toNat / 16), Hex.digit (c.toNat % 16)]
  else [c]

/-- A text between quotes. -/
def quoted (s : String) : List Char :=
  '"' :: s.toList.flatMap escapeChar ++ ['"']

/-- The text of a number. -/
def Number.chars : Number → List Char
  | .whole i => Decimal.intChars i
  | .decimal mantissa exponent =>
    Decimal.intChars mantissa ++ '.' :: '0' :: 'e' :: Decimal.intChars exponent

mutual
/-- The compact text of a value. -/
def Value.chars : Value → List Char
  | .null => ['n', 'u', 'l', 'l']
  | .bool true => ['t', 'r', 'u', 'e']
  | .bool false => ['f', 'a', 'l', 's', 'e']
  | .number n => n.chars
  | .string s => quoted s
  | .array [] => ['[', ']']
  | .array (v :: rest) => '[' :: v.chars ++ itemsChars rest
  | .object [] => ['{', '}']
  | .object ((name, v) :: rest) => '{' :: quoted name ++ ':' :: v.chars ++ membersChars rest
  | .unusable => ['n', 'u', 'l', 'l']

/-- The items after the first one, and the closing bracket. -/
def itemsChars : List Value → List Char
  | [] => [']']
  | v :: rest => ',' :: v.chars ++ itemsChars rest

/-- The members after the first one, and the closing brace. -/
def membersChars : List (String × Value) → List Char
  | [] => ['}']
  | (name, v) :: rest => ',' :: quoted name ++ ':' :: v.chars ++ membersChars rest
end

/-- The compact text of a value. -/
def Value.render (v : Value) : String :=
  String.ofList v.chars

end Gatehouse.Json
