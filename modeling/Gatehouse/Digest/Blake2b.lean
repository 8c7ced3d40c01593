import Gatehouse.Digest.Sha2

/-!
# BLAKE2b

The unkeyed hash with an output of up to sixty-four bytes, and its stretched form for longer
outputs.  Words are little-endian.

Main definitions: `hash` and `stretch`.
-/

namespace Gatehouse.Blake2b

/-- The little-endian number of some bytes. -/
def number (bs : Bytes) : Nat :=
  bs.foldr (fun b n => n * 256 + b.toNat) 0

/-- A number as `k` little-endian bytes. -/
def numberBytes : Nat → Nat → Bytes
  | 0, _ => []
  | k + 1, n => UInt8.ofNat (n % 256) :: numberBytes k (n / 256)

/-- The start of every hash: the start of SHA-512. -/
def start : Array UInt64 :=
  let s := Sha2.longStart
  #[s.a, s.b, s.c, s.d, s.e, s.f, s.g, s.h]

/-- The order in which the rounds read the words of a block; the last two repeat the first. -/
def orders : List (List Nat) := [
  [0, 1, 2, 3, 4, 5, 6, 7, 8, 9, 10, 11, 12, 13, 14, 15],
  [14, 10, 4, 8, 9, 15, 13, 6, 1, 12, 0, 2, 11, 7, 5, 3],
  [11, 8, 12, 0, 5, 2, 15, 13, 10, 14, 3, 6, 7, 1, 9, 4],
  [7, 9, 3, 1, 13, 12, 11, 14, 2, 6, 5, 10, 4, 0, 15, 8],
  [9, 0, 5, 7, 2, 4, 10, 15, 14, 1, 11, 12, 6, 8, 3, 13],
  [2, 12, 6, 10, 0, 11, 8, 3, 4, 13, 7, 5, 15, 14, 1, 9],
  [12, 5, 1, 15, 14, 13, 4, 10, 0, 7, 6, 3, 9, 2, 8, 11],
  [13, 11, 7, 14, 12, 1, 3, 9, 5, 0, 15, 4, 8, 6, 2, 10],
  [6, 15, 14, 9, 11, 3, 0, 8, 12, 2, 13, 7, 1, 4, 10, 5],
  [10, 2, 8, 4, 7, 6, 1, 5, 15, 11, 9, 14, 3, 12, 13, 0],
  [0, 1, 2, 3, 4, 5, 6, 7, 8, 9, 10, 11, 12, 13, 14, 15],
  [14, 10, 4, 8, 9, 15, 13, 6, 1, 12, 0, 2, 11, 7, 5, 3]]

/-- The places that the eight mixing steps of a round work on: columns, then diagonals. -/
def places : List (Nat × Nat × Nat × Nat) := [
  (0, 4, 8, 12), (1, 5, 9, 13), (2, 6, 10, 14), (3, 7, 11, 15),
  (0, 5, 10, 15), (1, 6, 11, 12), (2, 7, 8, 13), (3, 4, 9, 14)]

/-- Mix two words of the block into four words of the state. -/
def mix (v : Array UInt64) (place : Nat × Nat × Nat × Nat) (x y : UInt64) : Array UInt64 :=
  let (i, j, k, l) := place
  let a := v.getD i 0 + v.getD j 0 + x
  let d := Sha2.turn64 (v.getD l 0 ^^^ a) 32
  let c := v.getD k 0 + d
  let b := Sha2.turn64 (v.getD j 0 ^^^ c) 24
  let a := a + b + y
  let d := Sha2.turn64 (d ^^^ a) 16
  let c := c + d
  let b := Sha2.turn64 (b ^^^ c) 63
  (((v.setIfInBounds i a).setIfInBounds j b).setIfInBounds k c).setIfInBounds l d

/-- One round reads the words of the block in the given order. -/
def round (words v : Array UInt64) (order : List Nat) : Array UInt64 :=
  let order := order.toArray
  ((List.range 8).zip places).foldl
    (fun v (i, place) =>
      mix v place (words.getD (order.getD (2 * i) 0) 0) (words.getD (order.getD (2 * i + 1) 0) 0))
    v

/-- Take a block of 128 bytes into the chain, after `count` bytes in all. -/
def absorb (chain : Array UInt64) (block : Bytes) (count : Nat) (last : Bool) : Array UInt64 :=
  let words := ((Sha2.pieces 8 16 block).map fun bs => UInt64.ofNat (number bs)).toArray
  let state := chain ++ start
  let state := state.setIfInBounds 12 (state.getD 12 0 ^^^ UInt64.ofNat count)
  let state := if last then state.setIfInBounds 14 (~~~ state.getD 14 0) else state
  let v := orders.foldl (round words) state
  ((List.range 8).map fun i =>
    chain.getD i 0 ^^^ v.getD i 0 ^^^ v.getD (i + 8) 0).toArray

/-- Take all blocks of a message; the last one is filled with zeros and marked. -/
def absorbAll : Nat → Array UInt64 → Nat → Bytes → Array UInt64
  | 0, chain, _, _ => chain
  | fuel + 1, chain, count, message =>
    if message.length ≤ 128 then
      absorb chain (message ++ List.replicate (128 - message.length) 0)
        (count + message.length) true
    else
      absorbAll fuel (absorb chain (message.take 128) (count + 128) false) (count + 128)
        (message.drop 128)

/-- The hash of a message with `size` bytes, at most sixty-four. -/
def hash (size : Nat) (message : Bytes) : Bytes :=
  let chain := start.setIfInBounds 0 (start.getD 0 0 ^^^ 0x01010000 ^^^ UInt64.ofNat size)
  let final := absorbAll (message.length + 1) chain 0 message
  (final.toList.flatMap fun w => numberBytes 8 w.toNat).take size

/-- Go on hashing the last hash: half of each goes to the output, all of the final one. -/
def stretchFrom : Nat → Nat → Bytes → Bytes
  | 0, _, _ => []
  | fuel + 1, left, last =>
    if left ≤ 64 then hash left last
    else
      let next := hash 64 last
      next.take 32 ++ stretchFrom fuel (left - 32) next

/-- The hash of a message with any number of bytes. -/
def stretch (size : Nat) (message : Bytes) : Bytes :=
  let message := numberBytes 4 size ++ message
  if size ≤ 64 then hash size message
  else
    let first := hash 64 message
    first.take 32 ++ stretchFrom size (size - 32) first

end Gatehouse.Blake2b
