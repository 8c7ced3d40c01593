import Gatehouse.Digest.Sha2

/-!
# SHA-1

The hash behind time-based one-time codes.  Padding is that of the short words of SHA-2.
-/

namespace Gatehouse.Sha1

/-- The five words that the hash carries from block to block. -/
structure Chain where
  a : UInt32
  b : UInt32
  c : UInt32
  d : UInt32
  e : UInt32

/-- Turn a word to the left. -/
def turn (x n : UInt32) : UInt32 :=
  (x <<< n) ||| (x >>> (32 - n))

/-- The schedule of a block: its sixteen words and sixty-four mixed ones. -/
def schedule (block : Bytes) : Array UInt32 :=
  let own := ((Sha2.pieces 4 16 block).map fun bs => UInt32.ofNat (Sha2.number bs)).toArray
  (List.range 64).foldl
    (fun w i =>
      w.push (turn (w.getD (i + 13) 0 ^^^ w.getD (i + 8) 0 ^^^ w.getD (i + 2) 0 ^^^ w.getD i 0) 1))
    own

/-- The bit function and the constant of a round. -/
def stage (round : Nat) (b c d : UInt32) : UInt32 × UInt32 :=
  if round < 20 then ((b &&& c) ||| (~~~b &&& d), 0x5A827999)
  else if round < 40 then (b ^^^ c ^^^ d, 0x6ED9EBA1)
  else if round < 60 then ((b &&& c) ||| (b &&& d) ||| (c &&& d), 0x8F1BBCDC)
  else (b ^^^ c ^^^ d, 0xCA62C1D6)

/-- Take one block into the chain. -/
def absorb (v : Chain) (block : Bytes) : Chain :=
  let words := (schedule block).toList
  let r := ((List.range 80).zip words).foldl
    (fun (r : Chain) (i, w) =>
      let (f, k) := stage i r.b r.c r.d
      ⟨turn r.a 5 + f + r.e + k + w, r.a, turn r.b 30, r.c, r.d⟩)
    v
  ⟨v.a + r.a, v.b + r.b, v.c + r.c, v.d + r.d, v.e + r.e⟩

/-- The hash of a message. -/
def sha1 (message : Bytes) : Bytes :=
  let text := Sha2.padded 64 8 message
  let v := (Sha2.pieces 64 text.length text).foldl absorb
    ⟨0x67452301, 0xEFCDAB89, 0x98BADCFE, 0x10325476, 0xC3D2E1F0⟩
  [v.a, v.b, v.c, v.d, v.e].flatMap fun x => Sha2.numberBytes 4 x.toNat

end Gatehouse.Sha1
