import Gatehouse.Digest.Argon2
import Gatehouse.Encoding.Base64
import Gatehouse.Text.Decimal
import Gatehouse.Text.Split
import Gatehouse.Word

/-!
# Password records

A password is kept as a record that names the hash and its cost and holds the salt and the result:
`$argon2id$v=19$m=19456,t=2,p=1$salt$result`.  A password matches a record when hashing it as the
record says gives the same result; a text that is no such record matches nothing.

Main definitions: `PasswordRecord`, `PasswordRecord.ofText?`, `verifies` and `hashed`.
-/

namespace Gatehouse.Credential

open Argon2 (Variant Version Cost)

/-- A record with all that is needed to hash a password again. -/
structure PasswordRecord where
  variant : Variant
  version : Version
  cost : Cost
  /-- Bytes that go into the hash beside password and salt. -/
  extra : Bytes
  salt : Bytes
  result : Bytes
  deriving DecidableEq, Repr

/-- The characters of a value in a record. -/
def isValueChar (c : Char) : Bool :=
  c.isAlphanum || c == '/' || c == '+' || c == '.' || c == '-'

/-- A whole number in a word of 32 bits, without leading zeros. -/
def costNumber? (s : String) : Option Nat :=
  let cs := s.toList
  if cs.length > 1 && cs.head? == some '0' then none
  else
    match Decimal.nat? cs with
    | some n => if n < Word.bound32 then some n else none
    | none => none

/-- The name and value of a parameter. -/
def parameter? (piece : String) : Option (String × String) :=
  match Text.splitOn '=' piece with
  | [name, value] =>
    let nameOk := !name.isEmpty && name.length ≤ 32 &&
      name.toList.all fun c => c.isLower || c.isDigit || c == '-'
    if nameOk && value.length ≤ 64 && value.toList.all isValueChar then some (name, value) else none
  | _ => none

/-- The cost and the extra bytes while the parameters are read. -/
structure Parameters where
  memory : Nat := 19456
  passes : Nat := 2
  lanes : Nat := 1
  extra : Bytes := []

/-- Take a parameter into account; a name that is not known spoils the record. -/
def Parameters.set? (p : Parameters) (name value : String) : Option Parameters :=
  match name with
  | "m" => (costNumber? value).map fun n => { p with memory := n }
  | "t" => (costNumber? value).map fun n => { p with passes := n }
  | "p" => (costNumber? value).map fun n => { p with lanes := n }
  | "keyid" => do
    let bytes ← Base64.decode? Base64.standard value
    if bytes.length ≤ 8 then some p else none
  | "data" => do
    let bytes ← Base64.decode? Base64.standard value
    if bytes.length ≤ 32 then some { p with extra := bytes } else none
  | _ => none

/-- The parameters of a record. -/
def Parameters.ofText? (text : String) : Option Parameters := do
  if text.utf8ByteSize > 127 then none
  else
    let pairs ← (Text.splitOn ',' text).mapM parameter?
    pairs.foldlM (fun p (name, value) => p.set? name value) {}

/-- The cost, if the hash allows it. -/
def Parameters.cost? (p : Parameters) : Option Cost :=
  if 8 ≤ p.memory ∧ 1 ≤ p.lanes ∧ p.lanes < 0x1000000 ∧ 8 * p.lanes ≤ p.memory ∧ 1 ≤ p.passes then
    some ⟨p.memory, p.passes, p.lanes⟩
  else none

/-- The variant with a name. -/
def variant? : String → Option Variant
  | "argon2d" => some .dataDependent
  | "argon2i" => some .dataIndependent
  | "argon2id" => some .hybrid
  | _ => none

/-- The version with a number. -/
def version? (text : String) : Option Version :=
  match costNumber? text with
  | some 16 => some .first
  | some 19 => some .current
  | _ => none

/-- The salt of a record: text of 4 to 64 characters for at least 8 bytes. -/
def salt? (text : String) : Option Bytes := do
  let bytes ← Base64.decode? Base64.standard text
  if 4 ≤ text.length ∧ text.length ≤ 64 ∧ 8 ≤ bytes.length then some bytes else none

/-- The result in a record: 10 to 64 bytes. -/
def result? (text : String) : Option Bytes := do
  let bytes ← Base64.decode? Base64.standard text
  if 10 ≤ bytes.length ∧ bytes.length ≤ 64 then some bytes else none

namespace PasswordRecord

/-- The parameters, if the field in front holds them, and the fields after it. -/
def parametersAndRest? : List String → Option (Parameters × List String)
  | [] => some ({}, [])
  | field :: rest =>
    if field.toList.contains '=' then (Parameters.ofText? field).map (·, rest)
    else some ({}, field :: rest)

/-- The record that a text holds. -/
def ofText? (text : String) : Option PasswordRecord :=
  match Text.splitOn '$' text with
  | "" :: name :: fields => do
    let variant ← variant? name
    let (version, fields) ←
      match fields with
      | field :: rest =>
        if Text.startsWith "v=" field && !field.toList.contains ',' then
          (version? (String.ofList (field.toList.drop 2))).map (·, rest)
        else some (.current, fields)
      | [] => some (.current, fields)
    let (parameters, fields) ← parametersAndRest? fields
    let cost ← parameters.cost?
    match fields with
    | [salt, result] =>
      let salt ← salt? salt
      let result ← result? result
      return ⟨variant, version, cost, parameters.extra, salt, result⟩
    | _ => none
  | _ => none

/-- Does hashing the password as the record says give the record's result? -/
def verifies (r : PasswordRecord) (password : String) : Bool :=
  Argon2.hash r.variant r.version r.cost r.result.length (utf8 password) r.salt r.extra == r.result

end PasswordRecord

/-- Does the password match the record that a text holds? -/
def passwordMatches (record password : String) : Bool :=
  match PasswordRecord.ofText? record with
  | some r => r.verifies password
  | none => false

/-- The cost of the records made here. -/
def usualCost : Cost := ⟨19456, 2, 1⟩

/-- The record of a password with the given salt. -/
def hashedPassword (salt : Bytes) (password : String) : String :=
  let result := Argon2.hash .hybrid .current usualCost 32 (utf8 password) salt []
  "$argon2id$v=19$m=" ++ Decimal.natText usualCost.memory ++ ",t=" ++
    Decimal.natText usualCost.passes ++ ",p=" ++ Decimal.natText usualCost.lanes ++ "$" ++
    Base64.encode Base64.standard salt ++ "$" ++ Base64.encode Base64.standard result

end Gatehouse.Credential
