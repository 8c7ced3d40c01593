import Gatehouse.Access.Error

/-!
# Request flows

A flow handles a request: it asks the store and can fail.  A cookie flow also adds cookies to the
header of the response; those added before a failure stay.

Main definitions: `Flow`, `CookieFlow`, `Flow.fetch`, `Flow.lookup?` and `Flow.activeUser?`.
-/

namespace Gatehouse.Access

open Store (Asking Action User)

/-- A computation that asks the store and can fail. -/
abbrev Flow (α : Type) : Type :=
  ExceptT Error Action α

/-- A flow that adds cookies to a header. -/
abbrev CookieFlow (α : Type) : Type :=
  ExceptT Error (StateT Http.Headers Action) α

namespace Flow

variable {α : Type}

/-- Ask for something that has to be there. -/
def fetch (x : Asking α) : Flow α :=
  ExceptT.mk do
    match ← x.run with
    | .ok a => return .ok a
    | .error f => return .error (.ofStore f)

/-- Ask for something that may be missing. -/
def lookup? (x : Asking α) : Flow (Option α) :=
  ExceptT.mk do
    match ← x.run with
    | .ok a => return .ok (some a)
    | .error f => return if f.isNotFound then .ok none else .error (.internal f.message)

/-- The user with an id, unless the user is deleted. -/
def activeUser? (userId : String) : Flow (Option User) := do
  let user ← lookup? (Asking.userById userId)
  return user.filter (!·.deleted)

/-- The user with an id, who must not be deleted. -/
def activeUser (userId : String) : Flow User := do
  match ← activeUser? userId with
  | some user => return user
  | none => throw .unauthenticated

/-- A flow as a cookie flow that adds no cookies. -/
def withCookies (x : Flow α) : CookieFlow α :=
  ExceptT.mk fun headers => do
    let r ← x.run
    return (r, headers)

end Flow

/-- Issue tokens and add cookies in a flow. -/
def issuing {α : Type} (x : Token.Issuing α) : CookieFlow α :=
  ExceptT.mk fun headers =>
    match x.run headers with
    | (.ok a, headers) => return (.ok a, headers)
    | (.error e, headers) => return (.error (.ofIssue e), headers)

instance : MonadLift Flow CookieFlow := ⟨Flow.withCookies⟩

end Gatehouse.Access
