import Gatehouse.Encoding.Hex
import Gatehouse.Word

/-!
# Identifiers

Signed tokens are named by random identifiers, API tokens by identifiers that begin with the time
of their making, so that they sort by age.  Both have 128 bits, of which six say what kind of
identifier it is, and are written in five groups of hexadecimal digits.  Requests are named by
26 characters of a base of 32 that leaves out the letters which look like digits.

Main definitions: `Identifier.random`, `Identifier.timed` and `Identifier.sortable`.
-/

namespace Gatehouse.Identifier

/-- The natural number that bytes write in base 256, the high byte first. -/
def number (bs : Bytes) : Nat :=
  bs.foldl (fun n b => n * 256 + b.toNat) 0

/-- Five groups of digits.  The third group begins with the digit of the version, the fourth with
the two bits that mark the layout. -/
def grouped (version : Nat) (first48 next12 last62 : Nat) : String :=
  Hex.ofNatPadded 8 ((first48 >>> 16) % Word.bound32) ++ "-" ++
    Hex.ofNatPadded 4 (first48 % Word.bound16) ++ "-" ++
    Hex.ofNatPadded 4 (version * 0x1000 + next12 % 0x1000) ++ "-" ++
    Hex.ofNatPadded 4 (0x8000 + (last62 >>> 48) % 0x4000) ++ "-" ++
    Hex.ofNatPadded 12 (last62 % 0x1000000000000)

/-- The identifier made from sixteen random bytes. -/
def random (bs : Bytes) : String :=
  grouped 4 (number (bs.take 6)) (number ((bs.drop 6).take 2)) (number (bs.drop 8))

/-- The identifier made at a time, in milliseconds, from ten random bytes. -/
def timed (milliseconds : Nat) (bs : Bytes) : String :=
  grouped 7 milliseconds (number (bs.take 2)) (number (bs.drop 2))

/-- The digits and letters of base 32; `I`, `L`, `O` and `U` are left out. -/
def alphabet : List Char :=
  "0123456789ABCDEFGHJKMNPQRSTVWXYZ".toList

/-- The last digits of a number in base 32. -/
def digits : Nat → Nat → List Char
  | 0, _ => []
  | width + 1, n => digits width (n / 32) ++ [alphabet.getD (n % 32) '0']

/-- The short identifier made at a time, in milliseconds, from ten random bytes. -/
def sortable (milliseconds : Nat) (bs : Bytes) : String :=
  String.ofList (digits 26 ((milliseconds % 0x1000000000000) <<< 80 + number bs % (1 <<< 80)))

end Gatehouse.Identifier
