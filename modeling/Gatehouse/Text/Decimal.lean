/-!
# Decimal numbers in text

Whole numbers are written without leading zeros and read digit by digit.
-/

namespace Gatehouse.Decimal

/-- Is the character an ASCII digit? -/
def isDigit (c : Char) : Bool :=
  '0' ≤ c && c ≤ '9'

/-- The number written by some digits. -/
def ofDigits (ds : List Char) : Nat :=
  ds.foldl (fun n c => n * 10 + (c.toNat - 48)) 0

/-- The digits of a number. -/
def digits (n : Nat) : List Char :=
  Nat.toDigits 10 n

/-- The text of a number. -/
def natText (n : Nat) : String :=
  String.ofList (digits n)

/-- The characters of a whole number with its sign. -/
def intChars : Int → List Char
  | .ofNat n => digits n
  | .negSucc n => '-' :: digits (n + 1)

/-- The text of a whole number with its sign. -/
def intText (i : Int) : String :=
  String.ofList (intChars i)

/-- The number that a non-empty run of digits writes. -/
def nat? (cs : List Char) : Option Nat :=
  if cs.isEmpty then none
  else if cs.all isDigit then some (ofDigits cs)
  else none

/-- A number below a bound, with an optional plus sign in front. -/
def natBelow? (bound : Nat) (s : String) : Option Nat :=
  let digits :=
    match s.toList with
    | '+' :: rest => rest
    | cs => cs
  match nat? digits with
  | some n => if n < bound then some n else none
  | none => none

/-- A whole number with an optional sign in front. -/
def int? (s : String) : Option Int :=
  match s.toList with
  | '-' :: rest => (nat? rest).map fun n => -(n : Int)
  | '+' :: rest => (nat? rest).map Int.ofNat
  | cs => (nat? cs).map Int.ofNat

end Gatehouse.Decimal
