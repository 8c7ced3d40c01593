import Gatehouse.Text.Bytes

/-!
# Hexadecimal text

Digests are written with two lower-case digits a byte.
-/

namespace Gatehouse.Hex

/-- The lower-case digit of a number below sixteen. -/
def digit (n : Nat) : Char :=
  if n < 10 then Char.ofNat (48 + n) else Char.ofNat (87 + n)

/-- The value of a digit of either case. -/
def value? (c : Char) : Option Nat :=
  if '0' ≤ c ∧ c ≤ '9' then some (c.toNat - 48)
  else if 'a' ≤ c ∧ c ≤ 'f' then some (c.toNat - 87)
  else if 'A' ≤ c ∧ c ≤ 'F' then some (c.toNat - 55)
  else none

/-- Two digits a byte, the high one first. -/
def encode (bs : Bytes) : String :=
  String.ofList (bs.flatMap fun b => [digit (b.toNat / 16), digit (b.toNat % 16)])

/-- The bytes of pairs of digits; a digit without a partner is dropped, and anything else than a
digit counts as zero. -/
def decodeChars : List Char → Bytes
  | high :: low :: rest =>
    UInt8.ofNat ((value? high).getD 0 * 16 + (value? low).getD 0) :: decodeChars rest
  | _ => []

/-- The bytes of a text of digits. -/
def decode (s : String) : Bytes :=
  decodeChars s.toList

/-- A number in lower-case digits, with zeros in front up to a width. -/
def ofNatPadded (width n : Nat) : String :=
  let digits := Nat.toDigits 16 n
  String.ofList (List.replicate (width - digits.length) '0' ++ digits)

/-- A number in lower-case digits without leading zeros. -/
def ofNat (n : Nat) : String :=
  String.ofList (Nat.toDigits 16 n)

end Gatehouse.Hex
