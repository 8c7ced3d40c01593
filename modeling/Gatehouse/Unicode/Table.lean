/-!
# Character tables

Tables of characters are kept as text: numbers in base 36, joined by blanks, each character given by
its distance from the one before.  Here they are read and searched.

Main definitions:

- `Ranges` are sets of characters given by ascending ranges of codes.
- `pairsOfText`, `triplesOfText`, `classesOfText` and `sequencesOfText` read the kinds of tables.
- `lookupCode` and `classOf` search them.
-/

namespace Gatehouse.Unicode

/-! ## Numbers -/

/-- The value of a digit in base 36. -/
def digit36 (c : Char) : Nat :=
  if c ≤ '9' then c.toNat - 48 else c.toNat - 87

/-- The numbers in a text. -/
def numbers (text : String) : List Nat :=
  let (all, last) := text.foldl
    (fun (acc : List Nat × Nat) c =>
      if c == ' ' then (acc.2 :: acc.1, 0) else (acc.1, acc.2 * 36 + digit36 c))
    ([], 0)
  if text.isEmpty then [] else (last :: all).reverse

/-- A whole number folded into the natural ones: even for zero and above, odd below. -/
def unfoldSign (n : Nat) : Int :=
  if n % 2 = 0 then n / 2 else -((n + 1) / 2 : Nat)

/-! ## Sets of characters -/

/-- A set of characters, given by ranges of codes, both ends included. -/
structure Ranges where
  ranges : List (Nat × Nat)
  deriving DecidableEq, Repr, Inhabited

namespace Ranges

/-- No characters. -/
def empty : Ranges := ⟨[]⟩

/-- Is the code in one of the ranges? -/
def contains (r : Ranges) (code : Nat) : Bool :=
  r.ranges.any fun (low, high) => low ≤ code && code ≤ high

/-- The ranges that a table gives by gaps and lengths. -/
def ofNumbers (next : Nat) : List Nat → List (Nat × Nat)
  | gap :: more :: rest =>
    (next + gap, next + gap + more) :: ofNumbers (next + gap + more + 1) rest
  | _ => []

/-- The set that a text describes. -/
def ofText (text : String) : Ranges :=
  ⟨ofNumbers 0 (numbers text)⟩

/-- Join the range from `low` to `high` with those that touch or overlap it, and these among each
other, in a list that ascends by their starts. -/
def joinFrom (low high : Nat) : List (Nat × Nat) → List (Nat × Nat)
  | [] => [(low, high)]
  | (low', high') :: rest =>
    if low' ≤ high + 1 then joinFrom low (max high high') rest
    else (low, high) :: joinFrom low' high' rest

/-- Join ranges that touch or overlap, in a list that ascends by their starts. -/
def joined : List (Nat × Nat) → List (Nat × Nat)
  | [] => []
  | (low, high) :: rest => joinFrom low high rest

/-- The set of the given ranges in any order. -/
def ofList (ranges : List (Nat × Nat)) : Ranges :=
  let sorted := (ranges.filter fun r => r.1 ≤ r.2).mergeSort fun a b => a.1 ≤ b.1
  ⟨joined sorted⟩

/-- The characters of two sets. -/
def union (r s : Ranges) : Ranges :=
  ofList (r.ranges ++ s.ranges)

/-- The characters of several sets. -/
def unionAll (sets : List Ranges) : Ranges :=
  ofList (sets.flatMap (·.ranges))

/-- The characters between ranges, from `next` to `last`. -/
def gaps (next last : Nat) : List (Nat × Nat) → List (Nat × Nat)
  | [] => if next ≤ last then [(next, last)] else []
  | (low, high) :: rest =>
    if next < low then (next, low - 1) :: gaps (high + 1) last rest else gaps (high + 1) last rest

/-- The codes up to `last` that are not in the set. -/
def complement (last : Nat) (r : Ranges) : Ranges :=
  ⟨gaps 0 last (ofList r.ranges).ranges⟩

/-- The characters in both sets. -/
def inter (r s : Ranges) : Ranges :=
  ofList <| r.ranges.flatMap fun (low, high) =>
    s.ranges.filterMap fun (low', high') =>
      if max low low' ≤ min high high' then some (max low low', min high high') else none

/-- The characters of the first set that are not in the second one. -/
def diff (r s : Ranges) : Ranges :=
  r.inter (s.complement 0x10FFFF)

end Ranges

/-! ## Tables -/

/-- Pairs of a code and another one, given by runs: the gap before the run, its length with the
distance of its members and whether they share their partner, and the partner of the first. -/
def runPairs (next : Nat) : List Nat → List (Nat × Nat)
  | gap :: shape :: distance :: rest =>
    let first := next + gap
    let step := shape / 2 % 2 + 1
    let count := shape / 4
    let partner := (first + unfoldSign distance).toNat
    let run := (List.range count).map fun i =>
      (first + i * step, if shape % 2 = 0 then partner + i * step else partner)
    run ++ runPairs (first + step * (count - 1) + 1) rest
  | _ => []

/-- The pairs that a text describes by runs. -/
def pairsOfText (text : String) : List (Nat × Nat) :=
  runPairs 0 (numbers text)

/-- Codes with two others each, given by gaps. -/
def gapTriples (next : Nat) : List Nat → List (Nat × Nat × Nat)
  | gap :: a :: b :: rest => (next + gap, a, b) :: gapTriples (next + gap + 1) rest
  | _ => []

/-- The codes with two others each that a text describes. -/
def triplesOfText (text : String) : List (Nat × Nat × Nat) :=
  gapTriples 0 (numbers text)

/-- Ranges with a class each, given by gaps and lengths. -/
def gapClasses (next : Nat) : List Nat → List (Nat × Nat × Nat)
  | gap :: more :: cls :: rest =>
    (next + gap, next + gap + more, cls) :: gapClasses (next + gap + more + 1) rest
  | _ => []

/-- The ranges with a class each that a text describes. -/
def classesOfText (text : String) : List (Nat × Nat × Nat) :=
  gapClasses 0 (numbers text)

/-- Codes with a sequence each, given by gaps and the lengths of the sequences; `fuel` bounds their
number. -/
def gapSequences : Nat → Nat → List Nat → List (Nat × List Nat)
  | fuel + 1, next, gap :: count :: rest =>
    (next + gap, rest.take count) :: gapSequences fuel (next + gap + 1) (rest.drop count)
  | _, _, _ => []

/-- The codes with a sequence each that a text describes. -/
def sequencesOfText (text : String) : List (Nat × List Nat) :=
  let all := numbers text
  gapSequences all.length 0 all

/-- Search an ascending table between two places; `fuel` bounds the number of steps. -/
def searchCode {α : Type} (table : Array (Nat × α)) (code : Nat) :
    Nat → Nat → Nat → Option α
  | 0, _, _ => none
  | fuel + 1, low, high =>
    if low < high then
      let middle := (low + high) / 2
      match table[middle]? with
      | some (c, value) =>
        if c = code then some value
        else if c < code then searchCode table code fuel (middle + 1) high
        else searchCode table code fuel low middle
      | none => none
    else none

/-- What an ascending table holds for a code. -/
def lookupCode {α : Type} (table : Array (Nat × α)) (code : Nat) : Option α :=
  searchCode table code (table.size + 1) 0 table.size

/-- Search the range of a code between two places; `fuel` bounds the number of steps. -/
def searchClass (table : Array (Nat × Nat × Nat)) (code : Nat) : Nat → Nat → Nat → Nat
  | 0, _, _ => 0
  | fuel + 1, low, high =>
    if low < high then
      let middle := (low + high) / 2
      match table[middle]? with
      | some (first, last, cls) =>
        if code < first then searchClass table code fuel low middle
        else if last < code then searchClass table code fuel (middle + 1) high
        else cls
      | none => 0
    else 0

/-- The class of a code; zero outside all ranges. -/
def classOf (table : Array (Nat × Nat × Nat)) (code : Nat) : Nat :=
  searchClass table code (table.size + 1) 0 table.size

/-- A name as it is compared: in lower case, without blanks, hyphens and underscores. -/
def looseName (name : String) : String :=
  String.ofList <|
    (name.toList.filter fun c => c != ' ' && c != '-' && c != '_').map Char.toLower

end Gatehouse.Unicode
