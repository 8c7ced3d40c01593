import Gatehouse.Text.Blank
import Gatehouse.Text.Bytes

/-!
# Header fields

The header of a message is a list of lines, each a lower-case name and a value of bytes.  A name may
stand on several lines, whose order counts.

Main definitions:

- `fieldName?` and `fieldValue?` admit what may stand in a header.
- `readable?` reads a value as text; only visible ASCII, blanks and tabs are readable.
- `Headers.values`, `Headers.append`, `Headers.put` and `Headers.extend`.
-/

namespace Gatehouse.Http

/-- The characters of a header name. -/
def isNameChar (c : Char) : Bool :=
  c.isAlphanum || "!#$%&'*+-.^_\x60|~".toList.contains c

/-- A header name in lower case. -/
def fieldName? (name : String) : Option String :=
  if name.isEmpty then none
  else if name.toList.all isNameChar then some (Text.lowerAscii name)
  else none

/-- May the byte stand in a header value?  Control bytes other than the tab may not. -/
def isValueByte (b : UInt8) : Bool :=
  (b ≥ 0x20 && b != 0x7F) || b == 0x09

/-- A header value. -/
def fieldValue? (bs : Bytes) : Option Bytes :=
  if bs.all isValueByte then some bs else none

/-- Bytes that are read as text. -/
def isReadableByte (b : UInt8) : Bool :=
  (b ≥ 0x20 && b < 0x7F) || b == 0x09

/-- The text of a value, if all of it is readable. -/
def readable? (bs : Bytes) : Option String :=
  if bs.all isReadableByte then
    some (String.ofList (bs.map fun b => Char.ofNat b.toNat))
  else none

/-- The lines of a header: lower-case names and values. -/
structure Headers where
  lines : List (String × Bytes)
  deriving DecidableEq, Repr, Inhabited

namespace Headers

/-- No lines. -/
def empty : Headers := ⟨[]⟩

/-- The values of a name in order. -/
def values (h : Headers) (name : String) : List Bytes :=
  (h.lines.filter (·.1 == name)).map (·.2)

/-- The first value of a name. -/
def first? (h : Headers) (name : String) : Option Bytes :=
  (h.values name).head?

/-- Does the name stand on some line? -/
def contains (h : Headers) (name : String) : Bool :=
  h.lines.any (·.1 == name)

/-- The header with another line at its end. -/
def append (h : Headers) (name : String) (value : Bytes) : Headers :=
  ⟨h.lines ++ [(name, value)]⟩

/-- The header with another line at its end, unless the name or the text may not stand in it. -/
def appendText (h : Headers) (name text : String) : Headers :=
  match fieldName? name, fieldValue? (utf8 text) with
  | some name, some value => h.append name value
  | _, _ => h

/-- The header without the lines of a name. -/
def remove (h : Headers) (name : String) : Headers :=
  ⟨h.lines.filter (·.1 != name)⟩

/-- The header in which a name has just the given value. -/
def put (h : Headers) (name : String) (value : Bytes) : Headers :=
  (h.remove name).append name value

/-- The header with the lines of another one, which take the place of its lines of equal name. -/
def extend (h other : Headers) : Headers :=
  ⟨h.lines.filter (fun line => !other.contains line.1) ++ other.lines⟩

/-- The names that occur, each once, in the order of their first lines. -/
def names (h : Headers) : List String :=
  h.lines.foldl (fun seen line => if seen.contains line.1 then seen else seen ++ [line.1]) []

end Headers

end Gatehouse.Http
