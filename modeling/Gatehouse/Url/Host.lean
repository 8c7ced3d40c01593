import Gatehouse.Encoding.Percent
import Gatehouse.Net.Address
import Gatehouse.Url.Idna

/-!
# Hosts

The host of an address is a name or an internet address.  Names whose last label is a number are
addresses of version 4, in one to four parts that may be decimal, octal or hexadecimal; addresses of
version 6 stand in brackets.

Main definitions: `Host`, `Host.ofText?`, `Host.ofOpaqueText?` and `Host.text`.
-/

namespace Gatehouse.Url

/-- A host. -/
inductive Host where
  | name (text : String)
  | v4 (number : Nat)
  | v6 (number : Nat)
  deriving DecidableEq, Repr

/-- The text of a host. -/
def Host.text : Host → String
  | .name text => text
  | .v4 number => Net.dotted number
  | .v6 number => "[" ++ Net.compressedText (Net.groupsOf number) ++ "]"

/-! ## Numbers as hosts -/

/-- The number that a part writes: hexadecimal after `0x`, octal after `0`, else decimal. -/
def partNumber? (part : List Char) : Option Nat :=
  let inBase (base : Nat) (digits : List Char) : Option Nat :=
    (digits.mapM fun c => (Hex.value? c).filter (· < base)).map fun ds =>
      ds.foldl (fun n d => n * base + d) 0
  match part with
  | [] => none
  | ['0'] => some 0
  | '0' :: x :: rest =>
    if x = 'x' ∨ x = 'X' then inBase 16 rest else inBase 8 (x :: rest)
  | digits => inBase 10 digits

/-- Is the part a number, or at least all digits? -/
def looksNumeric (part : List Char) : Bool :=
  !part.isEmpty &&
    (part.all Decimal.isDigit ||
      match part with
      | '0' :: x :: rest => (x == 'x' || x == 'X') && rest.all fun c => (Hex.value? c).isSome
      | _ => false)

/-- The labels of a name, a single empty one at the end left out. -/
def nameParts (name : String) : List (List Char) :=
  let parts := Text.splitChars '.' name.toList
  match parts.reverse with
  | [] :: rest => if rest.isEmpty then parts else rest.reverse
  | _ => parts

/-- Does the name end in a number? -/
def endsInNumber (name : String) : Bool :=
  match (nameParts name).getLast? with
  | some last => looksNumeric last
  | none => false

/-- The address that numbers write: each but the last is a byte, the last one fills the rest. -/
def partsNumber? (numbers : List Nat) : Option Nat :=
  let count := numbers.length
  let front := numbers.dropLast
  let last := numbers.getLastD 0
  if count > 4 || count = 0 || front.any (· > 255) || last ≥ Nat.pow 256 (5 - count) then none
  else
    some (((List.range front.length).zip front).foldl
      (fun sum (i, n) => sum + n * Nat.pow 256 (3 - i)) last)

/-- The address of version 4 that a name ending in a number writes. -/
def nameAddress? (name : String) : Option Nat := do
  let numbers ← (nameParts name).mapM partNumber?
  partsNumber? numbers

/-! ## Reading -/

/-- The address of version 6 between brackets. -/
def bracketed? (text : List Char) : Option Host :=
  match text with
  | '[' :: rest =>
    match rest.getLast? with
    | some ']' => (Net.colons? (String.ofList rest.dropLast)).map .v6
    | _ => none
  | _ => none

/-- The host of an address of the web, or of another well-known kind. -/
def Host.ofText? (text : String) : Option Host :=
  if Text.startsWith "[" text then bracketed? text.toList
  else do
    let decoded ← text? (Percent.decode (utf8 text))
    let name ← Idna.asciiName? decoded
    if name.isEmpty then none
    else if endsInNumber name then (nameAddress? name).map .v4
    else some (.name name)

/-- Characters that may not stand in the host of an address of another kind. -/
def isForbiddenOpaque (c : Char) : Bool :=
  "\x00\t\n\r #/:<>?@[\\]^|".toList.contains c

/-- The host of an address of another kind; control characters and those beyond ASCII are
escaped. -/
def Host.ofOpaqueText? (text : String) : Option Host :=
  if Text.startsWith "[" text then bracketed? text.toList
  else if text.toList.any isForbiddenOpaque then none
  else some (.name (String.ofList (Percent.encode (fun _ => false) text.toList)))

end Gatehouse.Url
