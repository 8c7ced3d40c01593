import Gatehouse.Text.Bytes

/-!
# SHA-2

The hashes SHA-256, SHA-384 and SHA-512.  All three are one scheme over words of four or eight
bytes; a `Scheme` holds what they differ in.  The round constants of the short words are the upper
halves of those of the long words.

Main definitions: `sha256`, `sha384`, `sha512`.
-/

namespace Gatehouse.Sha2

/-- The eight words that a hash carries from block to block. -/
structure Chain (α : Type) where
  a : α
  b : α
  c : α
  d : α
  e : α
  f : α
  g : α
  h : α

/-- What tells one hash of the family from another. -/
structure Scheme (α : Type) where
  /-- Bytes in a word. -/
  width : Nat
  /-- Bytes of the finished hash. -/
  size : Nat
  start : Chain α
  constants : List α
  sum0 : α → α
  sum1 : α → α
  mix0 : α → α
  mix1 : α → α
  word : Nat → α
  value : α → Nat

/-- The big-endian number of some bytes. -/
def number (bs : Bytes) : Nat :=
  bs.foldl (fun n b => n * 256 + b.toNat) 0

/-- A number as `k` big-endian bytes. -/
def numberBytes : Nat → Nat → Bytes
  | 0, _ => []
  | k + 1, n => UInt8.ofNat ((n >>> (8 * k)) % 256) :: numberBytes k n

/-- Cut into pieces of `size`, at most `fuel` many. -/
def pieces (size : Nat) : Nat → Bytes → List Bytes
  | 0, _ => []
  | fuel + 1, bs => if bs.isEmpty then [] else bs.take size :: pieces size fuel (bs.drop size)

/-- The message followed by a one bit, zeros, and its length in bits, up to whole blocks. -/
def padded (block lengthBytes : Nat) (message : Bytes) : Bytes :=
  let used := (message.length + 1 + lengthBytes) % block
  message ++ 0x80 :: List.replicate ((block - used) % block) 0 ++
    numberBytes lengthBytes (message.length * 8)

variable {α : Type} [Inhabited α] [Add α] [XorOp α] [AndOp α] [Complement α]

/-- The word schedule of a block: its own words, then words mixed from earlier ones. -/
def schedule (s : Scheme α) (block : Bytes) : Array α :=
  let own := ((pieces s.width 16 block).map fun bs => s.word (number bs)).toArray
  (List.range (s.constants.length - 16)).foldl
    (fun w i =>
      w.push (s.mix1 (w.getD (i + 14) default) + w.getD (i + 9) default +
        s.mix0 (w.getD (i + 1) default) + w.getD i default))
    own

/-- One round with a constant and a word of the schedule. -/
def round (s : Scheme α) (v : Chain α) (k w : α) : Chain α :=
  let choice := (v.e &&& v.f) ^^^ (~~~v.e &&& v.g)
  let majority := (v.a &&& v.b) ^^^ (v.a &&& v.c) ^^^ (v.b &&& v.c)
  let t := v.h + s.sum1 v.e + choice + k + w
  ⟨t + s.sum0 v.a + majority, v.a, v.b, v.c, v.d + t, v.e, v.f, v.g⟩

/-- Take one block into the chain. -/
def absorb (s : Scheme α) (v : Chain α) (block : Bytes) : Chain α :=
  let r := (s.constants.zip (schedule s block).toList).foldl
    (fun r (k, w) => round s r k w) v
  ⟨v.a + r.a, v.b + r.b, v.c + r.c, v.d + r.d, v.e + r.e, v.f + r.f, v.g + r.g, v.h + r.h⟩

/-- The hash of a message. -/
def digest (s : Scheme α) (message : Bytes) : Bytes :=
  let text := padded (16 * s.width) (2 * s.width) message
  let v := (pieces (16 * s.width) text.length text).foldl (absorb s) s.start
  ([v.a, v.b, v.c, v.d, v.e, v.f, v.g, v.h].flatMap fun x =>
    numberBytes s.width (s.value x)).take s.size

/-- The round constants of the long words: fractional parts of cube roots of the first primes. -/
def longConstants : List UInt64 := [
  0x428a2f98d728ae22, 0x7137449123ef65cd, 0xb5c0fbcfec4d3b2f, 0xe9b5dba58189dbbc,
  0x3956c25bf348b538, 0x59f111f1b605d019, 0x923f82a4af194f9b, 0xab1c5ed5da6d8118,
  0xd807aa98a3030242, 0x12835b0145706fbe, 0x243185be4ee4b28c, 0x550c7dc3d5ffb4e2,
  0x72be5d74f27b896f, 0x80deb1fe3b1696b1, 0x9bdc06a725c71235, 0xc19bf174cf692694,
  0xe49b69c19ef14ad2, 0xefbe4786384f25e3, 0x0fc19dc68b8cd5b5, 0x240ca1cc77ac9c65,
  0x2de92c6f592b0275, 0x4a7484aa6ea6e483, 0x5cb0a9dcbd41fbd4, 0x76f988da831153b5,
  0x983e5152ee66dfab, 0xa831c66d2db43210, 0xb00327c898fb213f, 0xbf597fc7beef0ee4,
  0xc6e00bf33da88fc2, 0xd5a79147930aa725, 0x06ca6351e003826f, 0x142929670a0e6e70,
  0x27b70a8546d22ffc, 0x2e1b21385c26c926, 0x4d2c6dfc5ac42aed, 0x53380d139d95b3df,
  0x650a73548baf63de, 0x766a0abb3c77b2a8, 0x81c2c92e47edaee6, 0x92722c851482353b,
  0xa2bfe8a14cf10364, 0xa81a664bbc423001, 0xc24b8b70d0f89791, 0xc76c51a30654be30,
  0xd192e819d6ef5218, 0xd69906245565a910, 0xf40e35855771202a, 0x106aa07032bbd1b8,
  0x19a4c116b8d2d0c8, 0x1e376c085141ab53, 0x2748774cdf8eeb99, 0x34b0bcb5e19b48a8,
  0x391c0cb3c5c95a63, 0x4ed8aa4ae3418acb, 0x5b9cca4f7763e373, 0x682e6ff3d6b2b8a3,
  0x748f82ee5defb2fc, 0x78a5636f43172f60, 0x84c87814a1f0ab72, 0x8cc702081a6439ec,
  0x90befffa23631e28, 0xa4506cebde82bde9, 0xbef9a3f7b2c67915, 0xc67178f2e372532b,
  0xca273eceea26619c, 0xd186b8c721c0c207, 0xeada7dd6cde0eb1e, 0xf57d4f7fee6ed178,
  0x06f067aa72176fba, 0x0a637dc5a2c898a6, 0x113f9804bef90dae, 0x1b710b35131c471b,
  0x28db77f523047d84, 0x32caab7b40c72493, 0x3c9ebe0a15c9bebc, 0x431d67c49c100d4c,
  0x4cc5d4becb3e42b6, 0x597f299cfc657e2a, 0x5fcb6fab3ad6faec, 0x6c44198c4a475817]

/-- The start of SHA-512: fractional parts of square roots of the first eight primes. -/
def longStart : Chain UInt64 :=
  ⟨0x6a09e667f3bcc908, 0xbb67ae8584caa73b, 0x3c6ef372fe94f82b, 0xa54ff53a5f1d36f1,
   0x510e527fade682d1, 0x9b05688c2b3e6c1f, 0x1f83d9abfb41bd6b, 0x5be0cd19137e2179⟩

/-- The start of SHA-384: fractional parts of square roots of the next eight primes. -/
def longStart384 : Chain UInt64 :=
  ⟨0xcbbb9d5dc1059ed8, 0x629a292a367cd507, 0x9159015a3070dd17, 0x152fecd8f70e5939,
   0x67332667ffc00b31, 0x8eb44a8768581511, 0xdb0c2e0d64f98fa7, 0x47b5481dbefa4fa4⟩

/-- Turn a long word to the right. -/
def turn64 (x : UInt64) (n : UInt64) : UInt64 :=
  (x >>> n) ||| (x <<< (64 - n))

/-- Turn a short word to the right. -/
def turn32 (x : UInt32) (n : UInt32) : UInt32 :=
  (x >>> n) ||| (x <<< (32 - n))

/-- The scheme over words of eight bytes. -/
def longScheme (size : Nat) (start : Chain UInt64) : Scheme UInt64 where
  width := 8
  size := size
  start := start
  constants := longConstants
  sum0 x := turn64 x 28 ^^^ turn64 x 34 ^^^ turn64 x 39
  sum1 x := turn64 x 14 ^^^ turn64 x 18 ^^^ turn64 x 41
  mix0 x := turn64 x 1 ^^^ turn64 x 8 ^^^ (x >>> 7)
  mix1 x := turn64 x 19 ^^^ turn64 x 61 ^^^ (x >>> 6)
  word := UInt64.ofNat
  value := UInt64.toNat

/-- The upper half of a long word. -/
def upperHalf (x : UInt64) : UInt32 :=
  (x >>> 32).toUInt32

/-- The scheme over words of four bytes. -/
def shortScheme : Scheme UInt32 where
  width := 4
  size := 32
  start :=
    ⟨upperHalf longStart.a, upperHalf longStart.b, upperHalf longStart.c, upperHalf longStart.d,
     upperHalf longStart.e, upperHalf longStart.f, upperHalf longStart.g, upperHalf longStart.h⟩
  constants := (longConstants.take 64).map upperHalf
  sum0 x := turn32 x 2 ^^^ turn32 x 13 ^^^ turn32 x 22
  sum1 x := turn32 x 6 ^^^ turn32 x 11 ^^^ turn32 x 25
  mix0 x := turn32 x 7 ^^^ turn32 x 18 ^^^ (x >>> 3)
  mix1 x := turn32 x 17 ^^^ turn32 x 19 ^^^ (x >>> 10)
  word := UInt32.ofNat
  value := UInt32.toNat

/-- SHA-256. -/
def sha256 (message : Bytes) : Bytes :=
  digest shortScheme message

/-- SHA-384. -/
def sha384 (message : Bytes) : Bytes :=
  digest (longScheme 48 longStart384) message

/-- SHA-512. -/
def sha512 (message : Bytes) : Bytes :=
  digest (longScheme 64 longStart) message

end Gatehouse.Sha2
