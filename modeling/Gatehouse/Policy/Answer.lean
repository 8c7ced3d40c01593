import Gatehouse.Http.Header
import Gatehouse.Json.Record
import Gatehouse.Word

/-!
# What a policy answers

A policy allows or refuses a request and can name lines for the header of the answer.  It can also
have no opinion, and asking it can fail.

Main definitions: `Answer`, `Failure` and `Policy`.
-/

namespace Gatehouse.Policy

open Json (Value Reader Record)

/-- The opinion of a policy. -/
structure Answer where
  allow : Bool
  /-- The status to refuse with. -/
  status : Option Nat
  /-- Lines for the header of the answer. -/
  headers : Table String
  deriving DecidableEq, Repr

/-- The lines for the header that may stand in one, in the order of their names. -/
def Answer.lines (a : Answer) : Http.Headers :=
  (a.headers.entries.mergeSort fun s t => s.1 ≤ t.1).foldl
    (fun headers (name, text) => headers.appendText name text) .empty

/-- Why a policy could not be asked. -/
inductive Failure where
  /-- The request did not get through. -/
  | unreachable
  /-- The policy server reported an error. -/
  | status (code : Nat)
  /-- The answer was not understood. -/
  | unreadable
  deriving DecidableEq, Repr

/-- The answer in a value. -/
def Answer.ofJson? : Reader Answer := fun v => do
  let r ← Record.ofValue? ["allow", "status_code", "headers"] v
  let allow ← r.orElse "allow" false Json.readBool
  let status ← r.orElse "status_code" none (Json.readNullable (Json.readNatBelow Word.bound16))
  let headers ← r.orElse "headers" .empty (Json.readTable Json.readString)
  return ⟨allow, status, headers⟩

/-- The answer as JSON. -/
def Answer.toJson (a : Answer) : Value :=
  .object [
    ("allow", .bool a.allow),
    ("status_code", Json.orNull (fun code : Nat => .int code) a.status),
    ("headers", .object (a.headers.entries.map fun (name, text) => (name, .string text)))]

end Gatehouse.Policy
