import Gatehouse.Encoding.Hex
import Gatehouse.Json.Value
import Gatehouse.Text.Bytes
import Gatehouse.Word

/-!
# Reading JSON text

A document is one value with blanks around it and nothing else.  Strings hold no raw control
characters; numbers have no leading zeros, and a fraction or an exponent has at least one digit.
An object with a name that is half of a surrogate pair denotes nothing.

Main definitions: `scanValue` reads a value from the front of a text, `parse?` a whole document.
-/

namespace Gatehouse.Json

/-- The blanks that may stand between the parts of a document. -/
def isGap (c : Char) : Bool :=
  c == ' ' || c == '\t' || c == '\n' || c == '\r'

/-- Drop the blanks at the front. -/
def skipGap (cs : List Char) : List Char :=
  cs.dropWhile isGap

/-! ## Strings -/

/-- The number written by four hexadecimal digits. -/
def hexUnit? (a b c d : Char) : Option Nat := do
  let a ← Hex.value? a
  let b ← Hex.value? b
  let c ← Hex.value? c
  let d ← Hex.value? d
  return ((a * 16 + b) * 16 + c) * 16 + d

/-- The code of the character that a one-letter escape stands for. -/
def escaped? (c : Char) : Option Nat :=
  if c = '"' then some 0x22
  else if c = '\\' then some 0x5C
  else if c = '/' then some 0x2F
  else if c = 'b' then some 0x08
  else if c = 'f' then some 0x0C
  else if c = 'n' then some 0x0A
  else if c = 'r' then some 0x0D
  else if c = 't' then some 0x09
  else none

/-- The codes in a string up to its closing quote, and the text after it.  An escape gives one
code of sixteen bits, so a character beyond them takes two. -/
def scanCodes : List Char → Option (List Nat × List Char)
  | [] => none
  | '"' :: rest => some ([], rest)
  | '\\' :: 'u' :: a :: b :: c :: d :: rest => do
    let code ← hexUnit? a b c d
    let (codes, rest) ← scanCodes rest
    return (code :: codes, rest)
  | '\\' :: c :: rest => do
    let code ← escaped? c
    let (codes, rest) ← scanCodes rest
    return (code :: codes, rest)
  | c :: rest =>
    if c.toNat < 0x20 then none
    else do
      let (codes, rest) ← scanCodes rest
      return (c.toNat :: codes, rest)

/-- Join the two halves of each surrogate pair; there is no text when a half stands alone. -/
def joinCodes : List Nat → Option (List Char)
  | [] => some []
  | high :: rest =>
    if 0xD800 ≤ high ∧ high < 0xDC00 then
      match rest with
      | low :: rest' =>
        if 0xDC00 ≤ low ∧ low < 0xE000 then
          (joinCodes rest').map
            (Char.ofNat (0x10000 + (high - 0xD800) * 0x400 + (low - 0xDC00)) :: ·)
        else none
      | [] => none
    else if 0xDC00 ≤ high ∧ high < 0xE000 then none
    else (joinCodes rest).map (Char.ofNat high :: ·)

/-- A string after its opening quote: its text, if it has one, and what follows it. -/
def scanString (cs : List Char) : Option (Option String × List Char) := do
  let (codes, rest) ← scanCodes cs
  return ((joinCodes codes).map String.ofList, rest)

/-! ## Numbers -/

/-- The largest number of decimal digits of a double before the point. -/
def doubleDigits : Nat := 309

/-- Is the mantissa, moved by the exponent, too large for double precision? -/
def overflows (mantissa : Nat) (exponent : Int) : Bool :=
  let digits : Int := (Nat.toDigits 10 mantissa).length
  if mantissa = 0 then false
  else if digits + exponent > doubleDigits then true
  else if digits + exponent < doubleDigits then false
  else
    let bound : Nat := (1 <<< 1024) - (1 <<< 970)
    if exponent < 0 then bound * Nat.pow 10 exponent.natAbs ≤ mantissa
    else bound ≤ mantissa * Nat.pow 10 exponent.natAbs

/-- The value of a number with the given parts. -/
def numberValue (negative : Bool) (whole fraction : List Char) (exponent : Int)
    (plain : Bool) : Value :=
  let magnitude := Decimal.ofDigits (whole ++ fraction)
  let signed : Int := if negative then -magnitude else magnitude
  let fits :=
    if negative then 0 < magnitude && -Int.ofNat magnitude ≥ Word.firstSigned64
    else magnitude < Word.bound64
  if plain && fits then
    .number (.whole signed)
  else
    let exponent := exponent - fraction.length
    if overflows magnitude exponent then .unusable else .number (.decimal signed exponent)

/-- The digits at the front and the text after them. -/
def spanDigits (cs : List Char) : List Char × List Char :=
  (cs.takeWhile Decimal.isDigit, cs.dropWhile Decimal.isDigit)

/-- The exponent of a number, if one follows, and the text after it. -/
def scanExponent (cs : List Char) : Option (Option Int × List Char) :=
  match cs with
  | e :: rest =>
    if e = 'e' ∨ e = 'E' then
      let (negative, rest) :=
        match rest with
        | '-' :: rest => (true, rest)
        | '+' :: rest => (false, rest)
        | _ => (false, rest)
      let (digits, rest) := spanDigits rest
      if digits.isEmpty then none
      else
        let magnitude : Int := Decimal.ofDigits digits
        some (some (if negative then -magnitude else magnitude), rest)
    else some (none, cs)
  | [] => some (none, cs)

/-- The fraction of a number, if one follows, and the text after it. -/
def scanFraction (cs : List Char) : Option (Option (List Char) × List Char) :=
  match cs with
  | '.' :: rest =>
    let (digits, rest) := spanDigits rest
    if digits.isEmpty then none else some (some digits, rest)
  | _ => some (none, cs)

/-- A number without its sign. -/
def scanMagnitude (negative : Bool) (cs : List Char) : Option (Value × List Char) := do
  let (whole, rest) := spanDigits cs
  if whole.isEmpty || (whole.length > 1 && whole.head? == some '0') then none
  else
    let (fraction, rest) ← scanFraction rest
    let (exponent, rest) ← scanExponent rest
    let plain := fraction.isNone && exponent.isNone
    return (numberValue negative whole (fraction.getD []) (exponent.getD 0) plain, rest)

/-- A number at the front of a text. -/
def scanNumber : List Char → Option (Value × List Char)
  | '-' :: rest => scanMagnitude true rest
  | cs => scanMagnitude false cs

/-! ## Values -/

/-- The object with the given members; it denotes nothing when a name does not. -/
def objectOf (members : List (Option String × Value)) : Value :=
  match members.mapM (fun (name, v) => name.map (·, v)) with
  | some members => .object members
  | none => .unusable

mutual
/-- A value at the front of a text; `fuel` bounds the number of values in it. -/
def scanValue : Nat → List Char → Option (Value × List Char)
  | 0, _ => none
  | fuel + 1, cs =>
    match skipGap cs with
    | 'n' :: 'u' :: 'l' :: 'l' :: rest => some (.null, rest)
    | 't' :: 'r' :: 'u' :: 'e' :: rest => some (.bool true, rest)
    | 'f' :: 'a' :: 'l' :: 's' :: 'e' :: rest => some (.bool false, rest)
    | '"' :: rest => do
      let (text, rest) ← scanString rest
      return (match text with | some s => .string s | none => .unusable, rest)
    | '[' :: rest =>
      match skipGap rest with
      | ']' :: rest => some (.array [], rest)
      | rest => do
        let (v, rest) ← scanValue fuel rest
        let (items, rest) ← scanItems fuel rest
        return (.array (v :: items), rest)
    | '{' :: rest =>
      match skipGap rest with
      | '}' :: rest => some (.object [], rest)
      | rest => do
        let (first, rest) ← scanMember fuel rest
        let (members, rest) ← scanMembers fuel rest
        return (objectOf (first :: members), rest)
    | rest => scanNumber rest

/-- The items of an array after the first one. -/
def scanItems : Nat → List Char → Option (List Value × List Char)
  | 0, _ => none
  | fuel + 1, cs =>
    match skipGap cs with
    | ']' :: rest => some ([], rest)
    | ',' :: rest => do
      let (v, rest) ← scanValue fuel rest
      let (items, rest) ← scanItems fuel rest
      return (v :: items, rest)
    | _ => none

/-- A name and its value. -/
def scanMember : Nat → List Char → Option ((Option String × Value) × List Char)
  | 0, _ => none
  | fuel + 1, cs =>
    match skipGap cs with
    | '"' :: rest => do
      let (name, rest) ← scanString rest
      match skipGap rest with
      | ':' :: rest => do
        let (v, rest) ← scanValue fuel rest
        return ((name, v), rest)
      | _ => none
    | _ => none

/-- The members of an object after the first one. -/
def scanMembers : Nat → List Char → Option (List (Option String × Value) × List Char)
  | 0, _ => none
  | fuel + 1, cs =>
    match skipGap cs with
    | '}' :: rest => some ([], rest)
    | ',' :: rest => do
      let (member, rest) ← scanMember fuel rest
      let (members, rest) ← scanMembers fuel rest
      return (member :: members, rest)
    | _ => none
end

/-- The value of a document. -/
def parseChars? (cs : List Char) : Option Value :=
  match scanValue (2 * cs.length + 2) cs with
  | some (v, rest) => if (skipGap rest).isEmpty then some (v.withinDepth maxDepth) else none
  | none => none

/-- The value of a document. -/
def parse? (s : String) : Option Value :=
  parseChars? s.toList

/-- The value of a document given as bytes.  Bytes that are no text stand for half of a surrogate
pair: they spoil the string that they are in, and the whole document outside of strings. -/
def parseBytes? (bs : Bytes) : Option Value :=
  parse? (textMarking "\\udfff".toList bs)

end Gatehouse.Json
