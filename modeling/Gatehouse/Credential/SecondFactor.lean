import Gatehouse.Digest.Hmac
import Gatehouse.Encoding.Base32
import Gatehouse.Text.Blank
import Gatehouse.Text.Decimal
import Gatehouse.Token.Claims
import Gatehouse.Token.Opaque

/-!
# Second factors

One-time codes are six digits that change every thirty seconds.  They are made from a shared secret
and the number of the current step; the codes of the step before and the step after are accepted
too.  Recovery codes are single-use; two codes that differ only in case, or in characters other
than ASCII letters and digits, are the same code.

Main definitions: `OneTimeCode.ofStep`, `OneTimeCode.accepts`, `RecoveryCode.normalized` and
`RecoveryCode.digest?`.
-/

namespace Gatehouse.Credential

open Token (Time)

namespace OneTimeCode

/-- The number of digits in a code. -/
def digits : Nat := 6

/-- Seconds in a step. -/
def stepSeconds : Nat := 30

/-- A number as eight big-endian bytes. -/
def stepBytes (step : Nat) : Bytes :=
  Sha2.numberBytes 8 step

/-- The four bytes of a keyed hash that its last byte points at, without their first bit. -/
def truncated (mac : Bytes) : Nat :=
  let offset := (mac.getLastD 0).toNat % 16
  Sha2.number ((mac.drop offset).take 4) % 0x80000000

/-- The code of a step. -/
def ofStep (key : Bytes) (step : Nat) : String :=
  let mac := Hmac.mac Hmac.sha1 key (stepBytes step)
  let code := Decimal.digits (truncated mac % Nat.pow 10 digits)
  String.ofList (List.replicate (digits - code.length) '0' ++ code)

/-- The step that a time lies in. -/
def stepAt (now : Time) : Nat :=
  now.toNat / stepSeconds

/-- The shared secret written in a text, without the blanks around it. -/
def key? (secret : String) : Option Bytes :=
  Base32.decode? (Text.trim secret)

/-- Is the code, without the blanks around it, one of those accepted at `now`? -/
def accepts (secret : String) (now : Time) (code : String) : Bool :=
  let code := Text.trim code
  if code.length = digits && code.toList.all Decimal.isDigit then
    match key? secret with
    | some key =>
      let step := stepAt now
      [step - 1, step, step + 1].any fun s => ofStep key s == code
    | none => false
  else false

end OneTimeCode

namespace RecoveryCode

/-- The ASCII letters and digits of a code, in upper case. -/
def normalized (code : String) : String :=
  String.ofList ((code.toList.filter Char.isAlphanum).map Text.upperChar)

/-- The digest under which a code is stored; a code without letters and digits has none. -/
def digest? (code : String) : Option String :=
  let code := normalized code
  if code.isEmpty then none else some (Token.sha256Hex code)

end RecoveryCode

end Gatehouse.Credential
