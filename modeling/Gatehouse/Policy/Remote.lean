import Gatehouse.Json.Parser
import Gatehouse.Json.Printer
import Gatehouse.Policy.Answer
import Gatehouse.Policy.Input

/-!
# Asking a policy server

A policy server holds packages of policies under addresses of its own.  It is sent the input as a
JSON document and replies with the result of the package, if the package has one.

Main definitions: `endpoint`, `requestBody` and `readReply`.
-/

namespace Gatehouse.Policy

open Json (Value Reader Record)

/-- The package that is asked about delegated requests. -/
def packageName : String := "portcullis.forward_auth"

/-- The address of a package on a server. -/
def endpoint (base package : String) : String :=
  String.ofList (base.toList.reverse.dropWhile (· == '/')).reverse ++ "/v1/data/" ++
    String.ofList (package.toList.map fun c => if c == '.' then '/' else c)

/-- The document that is sent. -/
def requestBody (i : Input) : Value :=
  .object [("input", i.toJson)]

/-- The result in a reply; there may be none. -/
def readResult : Reader (Option Answer) := fun v => do
  let r ← Record.ofValue? ["result"] v
  r.optional "result" Answer.ofJson?

/-- What the policy says, by the status and body of the reply. -/
def readReply (status : Nat) (body : Bytes) : Except Failure (Option Answer) :=
  if 200 ≤ status ∧ status < 300 then
    match (Json.parseBytes? body).bind readResult with
    | some answer => .ok answer
    | none => .error .unreadable
  else .error (.status status)

end Gatehouse.Policy
