import Gatehouse.Text.Bytes

/-!
# Base32

Shared secrets of one-time codes are written in the alphabet `A`-`Z`, `2`-`7`, five bits a letter,
in upper case and without padding.  Bits left over at the end are dropped.
-/

namespace Gatehouse.Base32

/-- The five bits of a letter. -/
def value? (c : Char) : Option Nat :=
  if 'A' ≤ c ∧ c ≤ 'Z' then some (c.toNat - 65)
  else if '2' ≤ c ∧ c ≤ '7' then some (c.toNat - 24)
  else none

/-- Bytes of the letters, given the bits that are still to be written: how many, and their value. -/
def decodeFrom : Nat → Nat → List Char → Option Bytes
  | _, _, [] => some []
  | count, bits, c :: cs => do
    let v ← value? c
    let bits := bits * 32 + v
    if count + 5 < 8 then decodeFrom (count + 5) bits cs
    else
      let left := count + 5 - 8
      let bytes ← decodeFrom left (bits % (1 <<< left)) cs
      some (UInt8.ofNat (bits >>> left) :: bytes)

/-- The bytes of an unpadded text. -/
def decode? (s : String) : Option Bytes :=
  decodeFrom 0 0 s.toList

end Gatehouse.Base32
