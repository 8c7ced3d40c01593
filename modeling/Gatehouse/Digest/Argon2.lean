import Gatehouse.Digest.Blake2b
import Gatehouse.Word

/-!
# Argon2

The memory-hard hash of passwords, in its three variants and two versions.  Memory is a matrix of
blocks of 1024 bytes, one row a lane; it is filled in passes of four slices, and each new block is
compressed from the one before it and another one that the variant picks.

Main definitions: `Cost`, `Variant`, `Version` and `hash`.
-/

namespace Gatehouse.Argon2

/-- How the other block is picked: from the data, from the position, or first from the position
and then from the data. -/
inductive Variant where
  | dataDependent
  | dataIndependent
  | hybrid
  deriving DecidableEq, Repr

/-- The two versions differ in later passes: `current` keeps what a block held before. -/
inductive Version where
  | first
  | current
  deriving DecidableEq, Repr

/-- What a hash costs. -/
structure Cost where
  /-- Blocks of 1024 bytes. -/
  memory : Nat
  passes : Nat
  lanes : Nat
  deriving DecidableEq, Repr

/-- The number of a variant. -/
def Variant.number : Variant → Nat
  | .dataDependent => 0
  | .dataIndependent => 1
  | .hybrid => 2

/-- The number of a version. -/
def Version.number : Version → Nat
  | .first => 16
  | .current => 19

/-! ## Blocks -/

/-- Sixteen words. -/
structure Row where
  w0 : UInt64
  w1 : UInt64
  w2 : UInt64
  w3 : UInt64
  w4 : UInt64
  w5 : UInt64
  w6 : UInt64
  w7 : UInt64
  w8 : UInt64
  w9 : UInt64
  w10 : UInt64
  w11 : UInt64
  w12 : UInt64
  w13 : UInt64
  w14 : UInt64
  w15 : UInt64

/-- Eight rows of sixteen words. -/
structure Block where
  r0 : Row
  r1 : Row
  r2 : Row
  r3 : Row
  r4 : Row
  r5 : Row
  r6 : Row
  r7 : Row

/-- A row of zeros. -/
def Row.zero : Row :=
  ⟨0, 0, 0, 0, 0, 0, 0, 0, 0, 0, 0, 0, 0, 0, 0, 0⟩

/-- A block of zeros. -/
def Block.zero : Block :=
  ⟨.zero, .zero, .zero, .zero, .zero, .zero, .zero, .zero⟩

/-- The exclusive or of two rows. -/
def Row.xor (x y : Row) : Row :=
  ⟨x.w0 ^^^ y.w0, x.w1 ^^^ y.w1, x.w2 ^^^ y.w2, x.w3 ^^^ y.w3,
   x.w4 ^^^ y.w4, x.w5 ^^^ y.w5, x.w6 ^^^ y.w6, x.w7 ^^^ y.w7,
   x.w8 ^^^ y.w8, x.w9 ^^^ y.w9, x.w10 ^^^ y.w10, x.w11 ^^^ y.w11,
   x.w12 ^^^ y.w12, x.w13 ^^^ y.w13, x.w14 ^^^ y.w14, x.w15 ^^^ y.w15⟩

/-- The exclusive or of two blocks. -/
def Block.xor (x y : Block) : Block :=
  ⟨x.r0.xor y.r0, x.r1.xor y.r1, x.r2.xor y.r2, x.r3.xor y.r3,
   x.r4.xor y.r4, x.r5.xor y.r5, x.r6.xor y.r6, x.r7.xor y.r7⟩

/-- The words of a row in order. -/
def Row.words (r : Row) : List UInt64 :=
  [r.w0, r.w1, r.w2, r.w3, r.w4, r.w5, r.w6, r.w7,
   r.w8, r.w9, r.w10, r.w11, r.w12, r.w13, r.w14, r.w15]

/-- The words of a block in order. -/
def Block.words (b : Block) : List UInt64 :=
  [b.r0, b.r1, b.r2, b.r3, b.r4, b.r5, b.r6, b.r7].flatMap Row.words

/-- The row of sixteen words from place `i` on. -/
def Row.ofWords (w : Array UInt64) (i : Nat) : Row :=
  ⟨w.getD i 0, w.getD (i + 1) 0, w.getD (i + 2) 0, w.getD (i + 3) 0,
   w.getD (i + 4) 0, w.getD (i + 5) 0, w.getD (i + 6) 0, w.getD (i + 7) 0,
   w.getD (i + 8) 0, w.getD (i + 9) 0, w.getD (i + 10) 0, w.getD (i + 11) 0,
   w.getD (i + 12) 0, w.getD (i + 13) 0, w.getD (i + 14) 0, w.getD (i + 15) 0⟩

/-- The block with the given words. -/
def Block.ofWords (w : Array UInt64) : Block :=
  ⟨.ofWords w 0, .ofWords w 16, .ofWords w 32, .ofWords w 48,
   .ofWords w 64, .ofWords w 80, .ofWords w 96, .ofWords w 112⟩

/-- The block of 1024 bytes. -/
def Block.ofBytes (bs : Bytes) : Block :=
  .ofWords ((Sha2.pieces 8 128 bs).map fun w => UInt64.ofNat (Blake2b.number w)).toArray

/-- The bytes of a block. -/
def Block.bytes (b : Block) : Bytes :=
  b.words.flatMap fun w => Blake2b.numberBytes 8 w.toNat

/-! ## Compression -/

/-- Four words of a row. -/
structure Quad where
  a : UInt64
  b : UInt64
  c : UInt64
  d : UInt64

/-- A sum hardened by twice the product of the lower halves. -/
@[inline] def hardSum (x y : UInt64) : UInt64 :=
  x + y + 2 * (x &&& 0xFFFFFFFF) * (y &&& 0xFFFFFFFF)

/-- Turn a word to the right. -/
@[inline] def turn (x n : UInt64) : UInt64 :=
  (x >>> n) ||| (x <<< (64 - n))

/-- Mix four words. -/
@[inline] def mix (a b c d : UInt64) : Quad :=
  let a := hardSum a b
  let d := turn (d ^^^ a) 32
  let c := hardSum c d
  let b := turn (b ^^^ c) 24
  let a := hardSum a b
  let d := turn (d ^^^ a) 16
  let c := hardSum c d
  let b := turn (b ^^^ c) 63
  ⟨a, b, c, d⟩

/-- Mix a row: its columns as a square of four by four words, then its diagonals. -/
def Row.mixed (r : Row) : Row :=
  let p := mix r.w0 r.w4 r.w8 r.w12
  let q := mix r.w1 r.w5 r.w9 r.w13
  let s := mix r.w2 r.w6 r.w10 r.w14
  let t := mix r.w3 r.w7 r.w11 r.w15
  let e := mix p.a q.b s.c t.d
  let f := mix q.a s.b t.c p.d
  let g := mix s.a t.b p.c q.d
  let h := mix t.a p.b q.c s.d
  ⟨e.a, f.a, g.a, h.a, h.b, e.b, f.b, g.b, g.c, h.c, e.c, f.c, f.d, g.d, h.d, e.d⟩

/-- Mix every row of a block. -/
def Block.mixed (b : Block) : Block :=
  ⟨b.r0.mixed, b.r1.mixed, b.r2.mixed, b.r3.mixed,
   b.r4.mixed, b.r5.mixed, b.r6.mixed, b.r7.mixed⟩

/-- The pairs of words that stand at one place of each row. -/
@[inline] def Block.column (b : Block) (f g : Row → UInt64) : Row :=
  ⟨f b.r0, g b.r0, f b.r1, g b.r1, f b.r2, g b.r2, f b.r3, g b.r3,
   f b.r4, g b.r4, f b.r5, g b.r5, f b.r6, g b.r6, f b.r7, g b.r7⟩

/-- The block with rows and columns exchanged, in pairs of words. -/
def Block.transposed (b : Block) : Block :=
  ⟨b.column Row.w0 Row.w1, b.column Row.w2 Row.w3, b.column Row.w4 Row.w5,
   b.column Row.w6 Row.w7, b.column Row.w8 Row.w9, b.column Row.w10 Row.w11,
   b.column Row.w12 Row.w13, b.column Row.w14 Row.w15⟩

/-- Compress two blocks into one. -/
def compress (x y : Block) : Block :=
  let sum := x.xor y
  sum.mixed.transposed.mixed.transposed.xor sum

/-! ## Filling the memory -/

/-- The layout of the memory. -/
structure Layout where
  lanes : Nat
  laneLength : Nat
  segmentLength : Nat
  passes : Nat
  variant : Variant
  version : Version

/-- The part of a lane that is filled at one go. -/
structure Segment where
  pass : Nat
  slice : Nat
  lane : Nat

/-- Does the segment pick blocks by position? -/
def Layout.byPosition (l : Layout) (s : Segment) : Bool :=
  match l.variant with
  | .dataDependent => false
  | .dataIndependent => true
  | .hybrid => s.pass == 0 && s.slice < 2

/-- The words that pick the blocks of a segment by position. -/
def Layout.pickWords (l : Layout) (s : Segment) : Array UInt64 :=
  let input (count : Nat) : Block :=
    .ofWords #[UInt64.ofNat s.pass, UInt64.ofNat s.lane, UInt64.ofNat s.slice,
      UInt64.ofNat (l.lanes * l.laneLength), UInt64.ofNat l.passes,
      UInt64.ofNat l.variant.number, UInt64.ofNat count]
  ((List.range ((l.segmentLength + 127) / 128)).flatMap fun i =>
    (compress .zero (compress .zero (input (i + 1)))).words).toArray

/-- The place of the block that a word picks for place `index` of a segment. -/
def Layout.picked (l : Layout) (s : Segment) (index : Nat) (word : UInt64) : Nat :=
  let high := (word >>> 32).toNat
  let low := (word &&& 0xFFFFFFFF).toNat
  let lane := if s.pass = 0 ∧ s.slice = 0 then s.lane else high % l.lanes
  let finished := if s.pass = 0 then s.slice * l.segmentLength else l.laneLength - l.segmentLength
  let area :=
    if lane = s.lane then finished + index - 1
    else if index = 0 then finished - 1
    else finished
  let back := area * (low * low / Word.bound32) / Word.bound32
  let start := if s.pass = 0 then 0 else (s.slice + 1) % 4 * l.segmentLength
  lane * l.laneLength + (start + (area - 1 - back)) % l.laneLength

/-- Fill a segment of the memory. -/
def Layout.fillSegment (l : Layout) (memory : Array Block) (s : Segment) : Array Block :=
  let byPosition := l.byPosition s
  let words := if byPosition then l.pickWords s else #[]
  let skipped := if s.pass = 0 ∧ s.slice = 0 then 2 else 0
  ((List.range l.segmentLength).drop skipped).foldl
    (fun memory index =>
      let place := s.slice * l.segmentLength + index
      let here := s.lane * l.laneLength + place
      let last := s.lane * l.laneLength + (place + l.laneLength - 1) % l.laneLength
      let before := memory.getD last .zero
      let word := if byPosition then words.getD index 0 else before.r0.w0
      let other := memory.getD (l.picked s index word) .zero
      let block := compress before other
      let block :=
        if s.pass = 0 ∨ l.version = .first then block else block.xor (memory.getD here .zero)
      memory.setIfInBounds here block)
    memory

/-- All segments in the order in which they are filled. -/
def Layout.segments (l : Layout) : List Segment :=
  (List.range l.passes).flatMap fun pass =>
    (List.range 4).flatMap fun slice =>
      (List.range l.lanes).map fun lane => ⟨pass, slice, lane⟩

/-- A byte string with its length in front. -/
def counted (bs : Bytes) : Bytes :=
  Blake2b.numberBytes 4 bs.length ++ bs

/-- The hash of a password with `size` bytes. -/
def hash (variant : Variant) (version : Version) (cost : Cost) (size : Nat)
    (password salt extra : Bytes) : Bytes :=
  let segmentLength := cost.memory / (4 * cost.lanes)
  let l : Layout := ⟨cost.lanes, 4 * segmentLength, segmentLength, cost.passes, variant, version⟩
  let number := Blake2b.numberBytes 4
  let seed := Blake2b.hash 64
    (number cost.lanes ++ number size ++ number cost.memory ++ number cost.passes ++
      number version.number ++ number variant.number ++
      counted password ++ counted salt ++ counted [] ++ counted extra)
  let firstBlock (lane place : Nat) : Block :=
    .ofBytes (Blake2b.stretch 1024 (seed ++ number place ++ number lane))
  let memory := Array.replicate (l.lanes * l.laneLength) Block.zero
  let memory := (List.range l.lanes).foldl
    (fun memory lane =>
      (memory.setIfInBounds (lane * l.laneLength) (firstBlock lane 0)).setIfInBounds
        (lane * l.laneLength + 1) (firstBlock lane 1))
    memory
  let memory := l.segments.foldl l.fillSegment memory
  let final := (List.range l.lanes).foldl
    (fun sum lane => sum.xor (memory.getD (lane * l.laneLength + l.laneLength - 1) .zero))
    Block.zero
  Blake2b.stretch size final.bytes

end Gatehouse.Argon2
