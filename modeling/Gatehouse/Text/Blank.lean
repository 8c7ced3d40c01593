/-!
# Blank characters

Configuration values, header values and rule fields are read with the blanks around them removed.
A blank is a character with the Unicode property `White_Space`.

Main definitions:

- `isBlank` decides the property, `trim` removes blanks at both ends of a text.
- `lowerAscii` and `upperAscii` change the case of ASCII letters and leave every other character.
- `eqIgnoreCase` compares two texts up to the case of ASCII letters.
-/

namespace Gatehouse.Text

/-- The characters with the Unicode property `White_Space`. -/
def isBlank (c : Char) : Bool :=
  let n := c.toNat
  (0x09 ≤ n && n ≤ 0x0D) || n == 0x20 || n == 0x85 || n == 0xA0 || n == 0x1680 ||
    (0x2000 ≤ n && n ≤ 0x200A) || n == 0x2028 || n == 0x2029 || n == 0x202F ||
    n == 0x205F || n == 0x3000

/-- Drop the blanks at the front. -/
def trimFront (cs : List Char) : List Char :=
  cs.dropWhile isBlank

/-- Drop the blanks at the back. -/
def trimBack (cs : List Char) : List Char :=
  (cs.reverse.dropWhile isBlank).reverse

/-- Drop the blanks at both ends. -/
def trimChars (cs : List Char) : List Char :=
  trimBack (trimFront cs)

/-- The text without the blanks at its ends. -/
def trim (s : String) : String :=
  String.ofList (trimChars s.toList)

/-- A text is blank when it has no character but blanks. -/
def isBlankText (s : String) : Bool :=
  s.toList.all isBlank

/-- The lower-case form of an ASCII letter; every other character stays. -/
def lowerChar (c : Char) : Char :=
  if 'A' ≤ c ∧ c ≤ 'Z' then Char.ofNat (c.toNat + 32) else c

/-- The upper-case form of an ASCII letter; every other character stays. -/
def upperChar (c : Char) : Char :=
  if 'a' ≤ c ∧ c ≤ 'z' then Char.ofNat (c.toNat - 32) else c

/-- ASCII letters in lower case. -/
def lowerAscii (s : String) : String :=
  String.ofList (s.toList.map lowerChar)

/-- ASCII letters in upper case. -/
def upperAscii (s : String) : String :=
  String.ofList (s.toList.map upperChar)

/-- Equality up to the case of ASCII letters. -/
def eqIgnoreCase (s t : String) : Bool :=
  s.toList.map lowerChar == t.toList.map lowerChar

end Gatehouse.Text
