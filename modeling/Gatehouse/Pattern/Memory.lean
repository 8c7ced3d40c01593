import Gatehouse.Pattern.Form

/-!
# The memory of patterns

Texts are searched by machines that read bytes, one forwards and one backwards.  A pattern may only
be used if neither of its machines is too large.  The states of a machine take memory, and so do the
moves between them; a part that is repeated is built as often as the repetition says.

Main definitions:

- `utf8Rows` and `bytesOf`: characters as bytes.
- `Form.memory`: what the states of a form take.
- `Form.fits`: both machines are within the limit.
-/

namespace Gatehouse.Pattern

open Unicode (Ranges)

/-! ## Characters as bytes -/

/-- Ranges of bytes, one for each place. -/
abbrev ByteRow := List (Nat × Nat)

/-- The codes from `low` to `high` as a first byte, counted from `lead`, and `count` others. -/
def rowsBetween (lead : Nat) : Nat → Nat → Nat → List ByteRow
  | 0, low, high => [[(lead + low, lead + high)]]
  | count + 1, low, high =>
    let size := 64 ^ (count + 1)
    let first := low / size
    let last := high / size
    if first = last then
      (rowsBetween 0x80 count (low % size) (high % size)).map ((lead + first, lead + first) :: ·)
    else
      -- the blocks at both ends may be taken in part, those between them are taken as a whole
      let begun := low % size != 0
      let ended := high % size != size - 1
      let front := if begun then rowsBetween 0x80 count (low % size) (size - 1) else []
      let back := if ended then rowsBetween 0x80 count 0 (high % size) else []
      let firstWhole := if begun then first + 1 else first
      let lastWhole := if ended then last - 1 else last
      let whole := (lead + firstWhole, lead + lastWhole) :: List.replicate (count + 1) (0x80, 0xBF)
      front.map ((lead + first, lead + first) :: ·) ++
        (if firstWhole ≤ lastWhole then [whole] else []) ++
        back.map ((lead + last, lead + last) :: ·)

/-- The codes that take the same number of bytes: the first and the last one, what the first byte is
counted from, and how many bytes follow it.  Half codes are left out. -/
def utf8Blocks : List (Nat × Nat × Nat × Nat) :=
  [(0, 0x7F, 0, 0), (0x80, 0x7FF, 0xC0, 1), (0x800, 0xD7FF, 0xE0, 2), (0xE000, 0xFFFF, 0xE0, 2),
    (0x10000, 0x10FFFF, 0xF0, 3)]

/-- The UTF-8 forms of the characters in a range. -/
def utf8Rows (low high : Nat) : List ByteRow :=
  utf8Blocks.flatMap fun (first, last, lead, count) =>
    if max low first ≤ min high last then
      rowsBetween lead count (max low first) (min high last)
    else []

/-- The UTF-8 form of characters. -/
def bytesOf (codes : List Nat) : List Nat :=
  codes.flatMap fun code => (utf8Rows code code).flatMap fun row => row.map (·.1)

/-! ## Memory of sets and texts -/

/-- What a state takes. -/
def stateSize : Nat := 32

/-- What a move between states takes that depends on the byte read. -/
def moveSize : Nat := 8

/-- What a move between states takes that reads nothing. -/
def linkSize : Nat := 4

/-- The rows that begin alike, without their beginning, for each beginning. -/
def branches {α : Type} [BEq α] (rows : List (List α)) : List (List (List α)) :=
  (rows.filterMap List.head?).eraseDups.map fun head =>
    rows.filterMap fun row => if row.head? == some head then some row.tail else none

/-- What may be left of rows, up to a number of places, as long as something is left. -/
def remainders : Nat → List ByteRow → List (List ByteRow)
  | 0, _ => []
  | count + 1, rows =>
    match branches rows with
    | [] => []
    | next => rows :: next.flatMap (remainders count)

/-- Sizes together. -/
def total (sizes : List Nat) : Nat :=
  sizes.foldl (· + ·) 0

/-- What a set takes.  Forwards, rows that end alike share their states; backwards, it is those that
begin alike. -/
def setMemory (backward : Bool) (set : Ranges) : Nat :=
  if set.ranges.all (·.2 < 128) then 2 * stateSize + moveSize * set.ranges.length
  else
    let rows := set.ranges.flatMap fun (low, high) => utf8Rows low high
    if backward then
      let starts := rows.flatMap fun row => (List.range row.length).map fun i => row.take (i + 1)
      2 * stateSize + linkSize * rows.length + stateSize * starts.eraseDups.length
    else
      let states := (remainders 4 rows).eraseDups
      stateSize + total (states.map fun rows => stateSize + moveSize * (branches rows).length)

/-- Texts between those that are at their end. -/
def stretches (rows : List (List Nat)) : List (List (List Nat)) :=
  let rec cut : List (List Nat) → List (List (List Nat))
    | [] => [[]]
    | [] :: rest => [] :: cut rest
    | row :: rest =>
      match cut rest with
      | [] => [[row]]
      | stretch :: others => (row :: stretch) :: others
  match rows with
  | [] :: rest => [] :: cut (rest.dropWhile List.isEmpty)
  | rows => cut rows

/-- What texts beside each other take, which share the states of what they begin with; `fuel` bounds
their length. -/
def textsMemory : Nat → List (List Nat) → Nat
  | 0, _ => 0
  | fuel + 1, rows =>
    let all := stretches rows
    let full := all.filter (!·.isEmpty)
    if full.isEmpty then 0
    else
      let stretchMemory (stretch : List (List Nat)) : Nat :=
        let next := branches stretch
        stateSize + (if next.length = 1 then 0 else moveSize * next.length) +
          total (next.map (textsMemory fuel))
      stateSize + linkSize * (full.length + all.length - 1) + total (full.map stretchMemory)

/-- What a repetition takes whose body takes `size`.  A body that is never empty is repeated without
end by a move back to it. -/
def repeatedMemory (size : Nat) (neverEmpty : Bool) (least : Nat) : Option Nat → Nat
  | none =>
    let again := size + stateSize + 2 * linkSize
    if least = 0 then
      if neverEmpty then again else again + 2 * stateSize + 2 * linkSize
    else (least - 1) * size + again
  | some most =>
    let exactly := if least = 0 then stateSize else least * size
    if least = most then exactly
    else if least = 0 && most = 1 then size + 2 * stateSize + 2 * linkSize
    else exactly + stateSize + (most - least) * (size + stateSize + 2 * linkSize)

/-! ## Memory of forms -/

namespace Form

/-- The bytes of a form that is a text. -/
def bytes? : Form → Option (List Nat)
  | .text codes => some (bytesOf codes)
  | _ => none

/-- What texts beside each other take, read in one direction. -/
def textOptionsMemory (backward : Bool) (rows : List (List Nat)) : Nat :=
  let rows := if backward then rows.map List.reverse else rows
  stateSize + textsMemory ((rows.map List.length).foldl max 0 + 1) rows

mutual
/-- What the states of a form take in the machine of a direction. -/
def memory (backward : Bool) : Form → Nat
  | .empty => stateSize
  | .text codes => stateSize * (bytesOf codes).length
  | .chars set => setMemory backward set
  | .look _ => stateSize
  | .group body => (if backward then 0 else 2 * stateSize) + body.memory backward
  | .repeated body least most _ =>
    repeatedMemory (body.memory backward) (body.shortest?.any (0 < ·)) least most
  | .concat parts => memoryOfAll backward parts
  | .alternate options =>
    match options.mapM bytes? with
    | some rows => textOptionsMemory backward rows
    | none => 2 * stateSize + linkSize * options.length + memoryOfAll backward options

/-- What the states of forms take together. -/
def memoryOfAll (backward : Bool) : List Form → Nat
  | [] => 0
  | form :: rest => form.memory backward + memoryOfAll backward rest
end

mutual
/-- Does the form only match where the machine of a direction begins to read the whole text? -/
def isAnchored (backward : Bool) : Form → Bool
  | .look condition => condition == if backward then .finish else .start
  | .group body => body.isAnchored backward
  | .repeated body least _ _ => 0 < least && body.isAnchored backward
  | .concat parts => if backward then isAnchoredBehind parts else isAnchoredBefore parts
  | .alternate options => areAnchored backward options
  | .empty => false
  | .text _ => false
  | .chars _ => false

/-- Does one of the parts only match at the start, with nothing but the empty text before it? -/
def isAnchoredBefore : List Form → Bool
  | [] => false
  | form :: rest => form.isAnchored false || (form.isEmptyOnly && isAnchoredBefore rest)

/-- Does one of the parts only match at the end, with nothing but the empty text behind it? -/
def isAnchoredBehind : List Form → Bool
  | [] => false
  | form :: rest => isAnchoredBehind rest || (areEmptyOnly rest && form.isAnchored true)

/-- Do all alternatives only match where the machine begins to read? -/
def areAnchored (backward : Bool) : List Form → Bool
  | [] => true
  | form :: rest => form.isAnchored backward && areAnchored backward rest
end

/-- What the machine of a direction takes: a form that may match anywhere is led by a loop over all
bytes, and its start and end are marked when reading forwards. -/
def machineMemory (backward : Bool) (form : Form) : Nat :=
  let lead := if form.isAnchored backward then stateSize
    else 3 * stateSize + moveSize + 2 * linkSize
  let marks := if backward then 0 else 2 * stateSize
  lead + marks + form.memory backward + stateSize

/-- How much memory a machine may take. -/
def memoryLimit : Nat := 10 * 1024 * 1024

/-- How many texts beside each other are searched without a machine. -/
def manyTexts : Nat := 3000

/-- Is the form nothing but many texts beside each other? -/
def isManyTexts : Form → Bool
  | .alternate options => manyTexts ≤ options.length && options.all (·.bytes?.isSome)
  | _ => false

/-- Can the form be used for searching? -/
def fits (form : Form) : Bool :=
  form.isManyTexts ||
    (form.machineMemory false ≤ memoryLimit && form.machineMemory true ≤ memoryLimit)

end Form

end Gatehouse.Pattern
