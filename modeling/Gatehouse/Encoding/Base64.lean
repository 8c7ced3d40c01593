import Gatehouse.Text.Bytes

/-!
# Base64

Three bytes are written as four letters of six bits each; a group of one or two bytes at the end
is written as two or three letters.  Two alphabets are in use: the one for addresses and tokens
(`urlSafe`) and the one for password records (`standard`).  Reading is strict: the unused bits of
the last letter have to be zero, so every byte string has exactly one written form.

Main definitions:

- `encode` and `decode?` write and read without padding.
- `encodePadded` and `decodePadded?` write and read with `=` up to a multiple of four letters.
-/

namespace Gatehouse.Base64

/-- An alphabet is given by its last two letters. -/
structure Alphabet where
  letter62 : Char
  letter63 : Char

/-- The alphabet whose letters stand in addresses without escapes. -/
def urlSafe : Alphabet := ⟨'-', '_'⟩

/-- The alphabet of password records. -/
def standard : Alphabet := ⟨'+', '/'⟩

/-- The letter for six bits. -/
def Alphabet.letter (a : Alphabet) (n : Nat) : Char :=
  if n < 26 then Char.ofNat (65 + n)
  else if n < 52 then Char.ofNat (71 + n)
  else if n < 62 then Char.ofNat (n - 4)
  else if n = 62 then a.letter62
  else a.letter63

/-- The six bits of a letter. -/
def Alphabet.value? (a : Alphabet) (c : Char) : Option Nat :=
  if 'A' ≤ c ∧ c ≤ 'Z' then some (c.toNat - 65)
  else if 'a' ≤ c ∧ c ≤ 'z' then some (c.toNat - 71)
  else if '0' ≤ c ∧ c ≤ '9' then some (c.toNat + 4)
  else if c = a.letter62 then some 62
  else if c = a.letter63 then some 63
  else none

/-- Bytes as letters, without padding. -/
def encodeChars (a : Alphabet) : Bytes → List Char
  | [] => []
  | [x] =>
    let x := x.toNat
    [a.letter (x / 4), a.letter (x % 4 * 16)]
  | [x, y] =>
    let x := x.toNat
    let y := y.toNat
    [a.letter (x / 4), a.letter (x % 4 * 16 + y / 16), a.letter (y % 16 * 4)]
  | x :: y :: z :: rest =>
    let x := x.toNat
    let y := y.toNat
    let z := z.toNat
    a.letter (x / 4) :: a.letter (x % 4 * 16 + y / 16) :: a.letter (y % 16 * 4 + z / 64) ::
      a.letter (z % 64) :: encodeChars a rest

/-- Letters as bytes; refuses foreign letters, a lone last letter and unused bits that are set. -/
def decodeChars? (a : Alphabet) : List Char → Option Bytes
  | [] => some []
  | [_] => none
  | [c, d] => do
    let c ← a.value? c
    let d ← a.value? d
    if d % 16 = 0 then some [UInt8.ofNat (c * 4 + d / 16)] else none
  | [c, d, e] => do
    let c ← a.value? c
    let d ← a.value? d
    let e ← a.value? e
    if e % 4 = 0 then
      some [UInt8.ofNat (c * 4 + d / 16), UInt8.ofNat (d % 16 * 16 + e / 4)]
    else none
  | c :: d :: e :: f :: rest => do
    let c ← a.value? c
    let d ← a.value? d
    let e ← a.value? e
    let f ← a.value? f
    let bytes ← decodeChars? a rest
    some (UInt8.ofNat (c * 4 + d / 16) :: UInt8.ofNat (d % 16 * 16 + e / 4) ::
      UInt8.ofNat (e % 4 * 64 + f) :: bytes)

/-- The unpadded text of bytes. -/
def encode (a : Alphabet) (bs : Bytes) : String :=
  String.ofList (encodeChars a bs)

/-- The bytes of an unpadded text. -/
def decode? (a : Alphabet) (s : String) : Option Bytes :=
  decodeChars? a s.toList

/-- How many padding marks follow a number of letters. -/
def padding (letters : Nat) : Nat :=
  (4 - letters % 4) % 4

/-- The text of bytes, padded to a multiple of four letters. -/
def encodePadded (a : Alphabet) (bs : Bytes) : String :=
  let letters := encodeChars a bs
  String.ofList (letters ++ List.replicate (padding letters.length) '=')

/-- The bytes of a text that carries exactly its padding. -/
def decodePadded? (a : Alphabet) (s : String) : Option Bytes :=
  let letters := s.toList.takeWhile (· ≠ '=')
  let marks := s.toList.drop letters.length
  if marks = List.replicate (padding letters.length) '=' then decodeChars? a letters else none

end Gatehouse.Base64
