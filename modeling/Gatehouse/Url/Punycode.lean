import Gatehouse.Word

/-!
# Punycode

A label with characters beyond ASCII is written as its ASCII characters, a hyphen, and the places of
the others as a sequence of numbers with digits of varying weight.

Main definitions: `encode` and `decode?`.
-/

namespace Gatehouse.Url.Punycode

/-- The digit of a number below 36. -/
def digit (n : Nat) : Char :=
  if n < 26 then Char.ofNat (97 + n) else Char.ofNat (22 + n)

/-- The number of a digit. -/
def digitValue? (c : Char) : Option Nat :=
  if 'a' ≤ c ∧ c ≤ 'z' then some (c.toNat - 97)
  else if 'A' ≤ c ∧ c ≤ 'Z' then some (c.toNat - 65)
  else if '0' ≤ c ∧ c ≤ '9' then some (c.toNat - 22)
  else none

/-- The threshold at a place: the least digit that does not end a number. -/
def threshold (place bias : Nat) : Nat :=
  if place ≤ bias then 1 else if place ≥ bias + 26 then 26 else place - bias

/-- Divide by 35 until the number is small; `fuel` bounds the number of times. -/
def scaleDown : Nat → Nat → Nat → Nat
  | 0, _, k => k
  | fuel + 1, delta, k =>
    if delta > 455 then scaleDown fuel (delta / 35) (k + 36) else k + 36 * delta / (delta + 38)

/-- The bias after a number was written. -/
def adapt (delta points : Nat) (first : Bool) : Nat :=
  let delta := if first then delta / 700 else delta / 2
  scaleDown 64 (delta + delta / points) 0

/-- The digits of a number; `fuel` bounds their count. -/
def numberDigits : Nat → Nat → Nat → Nat → List Char
  | 0, _, _, _ => []
  | fuel + 1, bias, place, n =>
    let t := threshold place bias
    if n < t then [digit n]
    else digit (t + (n - t) % (36 - t)) :: numberDigits fuel bias (place + 36) ((n - t) / (36 - t))

/-- The state between two numbers. -/
structure State where
  out : List Char
  delta : Nat
  bias : Nat
  handled : Nat

/-- Go over the codes with the next one to write. -/
def writeCode (basic code : Nat) (codes : List Nat) (s : State) : State :=
  codes.foldl
    (fun s c =>
      if c < code then { s with delta := s.delta + 1 }
      else if c = code then
        { out := s.out ++ numberDigits 64 s.bias 36 s.delta
          delta := 0
          bias := adapt s.delta (s.handled + 1) (s.handled == basic)
          handled := s.handled + 1 }
      else s)
    s

/-- Write the codes beyond ASCII in ascending order. -/
def writeCodes (basic : Nat) (codes : List Nat) : Nat → List Nat → State → State
  | _, [], s => s
  | next, code :: rest, s =>
    let s := { s with delta := s.delta + (code - next) * (s.handled + 1) }
    let s := writeCode basic code codes s
    writeCodes basic codes (code + 1) rest { s with delta := s.delta + 1 }

/-- The Punycode of some codes. -/
def encode (codes : List Nat) : List Char :=
  let basic := codes.filter (· < 128)
  let others := ((codes.filter (· ≥ 128)).mergeSort (· ≤ ·)).eraseDups
  let s := writeCodes basic.length codes 128 others ⟨[], 0, 72, basic.length⟩
  basic.map Char.ofNat ++ (if basic.isEmpty then [] else ['-']) ++ s.out

/-- Read a number: its value added to `i`, and the text after it. -/
def readNumber (bias : Nat) : Nat → Nat → Nat → List Char → Option (Nat × List Char)
  | _, _, _, [] => none
  | place, weight, i, c :: cs =>
    match digitValue? c with
    | none => none
    | some d =>
      let t := threshold place bias
      let i := i + d * weight
      if i ≥ Word.bound32 then none
      else if d < t then some (i, cs)
      else readNumber bias (place + 36) (weight * (36 - t)) i cs

/-- Read numbers and put their codes in place; `fuel` bounds their count. -/
def readCodes : Nat → Nat → Nat → Nat → List Nat → List Char → Option (List Nat)
  | _, _, _, _, out, [] => some out
  | 0, _, _, _, _, _ => none
  | fuel + 1, n, i, bias, out, cs =>
    match readNumber bias 36 1 i cs with
    | none => none
    | some (j, rest) =>
      let points := out.length + 1
      let n := n + j / points
      let place := j % points
      if n > 0x10FFFF || (0xD800 ≤ n && n < 0xE000) then none
      else
        readCodes fuel n (place + 1) (adapt (j - i) points (i == 0))
          (out.take place ++ n :: out.drop place) rest

/-- The codes that a Punycode text stands for. -/
def decode? (text : List Char) : Option (List Nat) :=
  let tail := (text.reverse.takeWhile (· != '-')).reverse
  let front := text.take (text.length - tail.length)
  let basic := front.dropLast
  if basic.all (·.toNat < 128) then
    readCodes text.length 128 0 72 (basic.map Char.toNat) tail
  else none

end Gatehouse.Url.Punycode
