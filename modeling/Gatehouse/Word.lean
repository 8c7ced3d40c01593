/-!
# Words

Numbers that are kept in words of 16, 32 or 64 bits are below the bound of their width.

Main definitions: `Word.bound16`, `Word.bound32` and `Word.bound64`.
-/

namespace Gatehouse.Word

/-- The number of words of 16 bits. -/
def bound16 : Nat := 0x10000

/-- The number of words of 32 bits. -/
def bound32 : Nat := 0x100000000

/-- The number of words of 64 bits. -/
def bound64 : Nat := 0x10000000000000000

/-- The largest signed number in a word of 64 bits. -/
def lastSigned64 : Int := 0x7FFFFFFFFFFFFFFF

/-- The smallest signed number in a word of 64 bits. -/
def firstSigned64 : Int := -0x8000000000000000

end Gatehouse.Word
