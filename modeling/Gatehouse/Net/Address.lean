import Gatehouse.Encoding.Hex
import Gatehouse.Text.Decimal
import Gatehouse.Text.Split
import Gatehouse.Word

/-!
# Internet addresses

Addresses of both versions, as numbers of 32 and 128 bits.  A mapped address is the address of
version 6 that carries one of version 4; it is not the same address.

Main definitions:

- `Address` with `Address.ofText?` and `Address.text`.
- `Address.unmapped` takes a mapped address to the one it carries.
-/

namespace Gatehouse.Net

/-- An address of version 4 or 6. -/
inductive Address where
  | v4 (bits : BitVec 32)
  | v6 (bits : BitVec 128)
  deriving DecidableEq, Repr

/-! ## Writing -/

/-- The number of version 4 as four decimal bytes. -/
def dotted (n : Nat) : String :=
  Text.joinWith "." <|
    [n >>> 24, (n >>> 16) % 256, (n >>> 8) % 256, n % 256].map Decimal.natText

/-- The eight groups of sixteen bits of an address of version 6. -/
def groupsOf (n : Nat) : List Nat :=
  [112, 96, 80, 64, 48, 32, 16, 0].map fun shift => (n >>> shift) % Word.bound16

/-- The start and length of the longest run of zero groups, the first of equals.  The run under
way starts at `start` and is `length` long. -/
def longestZeros (groups : List Nat) : Nat × Nat :=
  let step (acc : (Nat × Nat) × (Nat × Nat)) (item : Nat × Nat) : (Nat × Nat) × (Nat × Nat) :=
    let (best, current) := acc
    let (index, group) := item
    if group = 0 then
      let current := if current.2 = 0 then (index, 1) else (current.1, current.2 + 1)
      (if current.2 > best.2 then current else best, current)
    else (best, (0, 0))
  (((List.range groups.length).zip groups).foldl step ((0, 0), (0, 0))).1

/-- Groups in hexadecimal, joined by colons. -/
def groupText (groups : List Nat) : String :=
  Text.joinWith ":" (groups.map Hex.ofNat)

/-- The groups of an address, the longest run of two or more zero groups left out. -/
def compressedText (groups : List Nat) : String :=
  let (start, length) := longestZeros groups
  if length > 1 then
    groupText (groups.take start) ++ "::" ++ groupText (groups.drop (start + length))
  else groupText groups

/-- The number of version 4 that an address of version 6 carries. -/
def mapped? (n : Nat) : Option Nat :=
  if n / Word.bound32 = 0xFFFF then some (n % Word.bound32) else none

/-- The canonical text of an address. -/
def Address.text : Address → String
  | .v4 bits => dotted bits.toNat
  | .v6 bits =>
    match mapped? bits.toNat with
    | some n => "::ffff:" ++ dotted n
    | none => compressedText (groupsOf bits.toNat)

/-- The address that a mapped one carries; any other address stays. -/
def Address.unmapped : Address → Address
  | .v4 bits => .v4 bits
  | .v6 bits =>
    match mapped? bits.toNat with
    | some n => .v4 (BitVec.ofNat 32 n)
    | none => .v6 bits

/-- The mapped address that carries one of version 4. -/
def mappedOf (bits : BitVec 32) : Address :=
  .v6 (BitVec.ofNat 128 (0xFFFF * Word.bound32 + bits.toNat))

/-! ## Reading -/

/-- A decimal byte of one to three digits without leading zeros. -/
def byte? (piece : String) : Option Nat :=
  let cs := piece.toList
  if cs.length > 3 || (cs.length > 1 && cs.head? == some '0') then none
  else
    match Decimal.nat? cs with
    | some n => if n < 256 then some n else none
    | none => none

/-- The number of version 4 that a text writes. -/
def dotted? (text : String) : Option Nat :=
  match (Text.splitOn '.' text).mapM byte? with
  | some [a, b, c, d] => some (((a * 256 + b) * 256 + c) * 256 + d)
  | _ => none

/-- A group of one to four hexadecimal digits. -/
def group? (piece : String) : Option Nat :=
  let cs := piece.toList
  if cs.isEmpty || cs.length > 4 then none
  else (cs.mapM Hex.value?).map fun ds => ds.foldl (fun n d => n * 16 + d) 0

/-- The groups that pieces between colons write; the last piece may be an address of version 4. -/
def groupsOfPieces? : List String → Option (List Nat)
  | [] => some []
  | [last] =>
    match group? last with
    | some g => some [g]
    | none => (dotted? last).map fun n => [n / Word.bound16, n % Word.bound16]
  | piece :: rest => do
    let g ← group? piece
    let gs ← groupsOfPieces? rest
    return g :: gs

/-- The groups in a text without a double colon; an empty text has none. -/
def groupsOfText? (text : String) : Option (List Nat) :=
  if text.isEmpty then some [] else groupsOfPieces? (Text.splitOn ':' text)

/-- The number that eight groups write. -/
def ofGroups (groups : List Nat) : Nat :=
  groups.foldl (fun n g => n * Word.bound16 + g) 0

/-- The number of version 6 that a text writes.  A double colon stands for at least one group of
zeros; an address of version 4 may stand at the very end. -/
def colons? (text : String) : Option Nat :=
  match Text.cutAt? "::".toList text.toList with
  | some (before, after) => do
    let front ← groupsOfText? (String.ofList before)
    let back ← groupsOfText? (String.ofList after)
    if before.contains '.' || front.length + back.length > 7 then none
    else
      return ofGroups (front ++ List.replicate (8 - (front.length + back.length)) 0 ++ back)
  | none =>
    match groupsOfText? text with
    | some groups => if groups.length = 8 then some (ofGroups groups) else none
    | none => none

/-- The address that a text writes. -/
def Address.ofText? (text : String) : Option Address :=
  match dotted? text with
  | some n => some (.v4 (BitVec.ofNat 32 n))
  | none => (colons? text).map fun n => .v6 (BitVec.ofNat 128 n)

end Gatehouse.Net
