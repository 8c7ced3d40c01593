import Gatehouse.Encoding.Hex
import Gatehouse.Unicode.Category

/-!
# Quoted texts in messages

Messages name a faulty text between double quotes.  The quote, the backslash and the usual control
characters are written with a backslash; every other character that has no shape of its own is
written by its number in hexadecimal.

Main definition: `quoted`.
-/

namespace Gatehouse.Text

/-- Has the character a shape of its own?  Letters, marks, digits, punctuation and symbols have one,
unless they extend the character before them. -/
def isShaped (c : Char) : Bool :=
  ['L', 'M', 'N', 'P', 'S'].any (fun letter => (Unicode.groupRanges letter).contains c.toNat) &&
    !Unicode.graphemeExtend.contains c.toNat

/-- A character as it stands between quotes. -/
def quotedChar (c : Char) : List Char :=
  if c = '"' then ['\\', '"']
  else if c = '\\' then ['\\', '\\']
  else if c = '\n' then ['\\', 'n']
  else if c = '\r' then ['\\', 'r']
  else if c = '\t' then ['\\', 't']
  else if c.toNat = 0 then ['\\', '0']
  else if c.toNat < 0x7F && 0x20 ≤ c.toNat then [c]
  else if isShaped c then [c]
  else "\\u\x7b".toList ++ (Hex.ofNat c.toNat).toList ++ ['\x7d']

/-- A text between quotes. -/
def quoted (s : String) : String :=
  String.ofList ('"' :: s.toList.flatMap quotedChar ++ ['"'])

end Gatehouse.Text
