import Gatehouse.Store.Model

/-!
# Talking to the store

The service keeps nothing in itself; whatever lasts is asked of the store and told to it, one query
at a time.  An `Action` says what is asked first and how to go on for every answer.  It can be run
against any store, together with other actions, and with failures at any place.

Main definitions:

- `Query` and the type `Query.Answer` of its answers.
- `Action`, `Action.ask` and `Action.run`.
-/

namespace Gatehouse.Store

open Token (Time)

/-- Why the store does not answer. -/
inductive Failure where
  /-- There is no such record. -/
  | notFound
  /-- The database has no such row, which means the same. -/
  | noRow
  | other (detail : String)
  deriving DecidableEq, Repr

/-- Is there no such record? -/
def Failure.isNotFound : Failure → Bool
  | .notFound | .noRow => true
  | .other _ => false

/-- The wording of a failure. -/
def Failure.message : Failure → String
  | .notFound => "record not found"
  | .noRow =>
    "database error: no rows returned by a query that expected to return at least one row"
  | .other detail => "store error: " ++ detail

/-- What can be asked of the store. -/
inductive Query where
  | userById (userId : String)
  | userByName (username : String)
  | userByEmail (address : String)
  | primaryEmail (userId : String)
  | rolesOfUser (userId : String)
  | permissionsOfRole (roleId : String)
  /-- Delete a recovery code; was there one? -/
  | takeRecoveryCode (userId digest : String)
  | reject (rejection : Rejection)
  | isRejected (tokenId : String)
  /-- Delete the rejections that expire before a time; how many were there? -/
  | dropRejections (before : Time)
  /-- Store a token together with its roles. -/
  | addApiToken (token : ApiTokenRecord) (roleIds : List String)
  | apiTokenByDigest (digest : String)
  | apiTokensOfUser (userId : String)
  | rolesOfApiToken (tokenId : String)
  /-- Delete a token of a user; how many were there? -/
  | removeApiToken (tokenId userId : String)
  | ping
  deriving DecidableEq, Repr

/-- What the store answers. -/
def Query.Answer : Query → Type
  | .userById _ => User
  | .userByName _ => User
  | .userByEmail _ => User × Bool
  | .primaryEmail _ => EmailAddress
  | .rolesOfUser _ => List Role
  | .permissionsOfRole _ => List String
  | .takeRecoveryCode _ _ => Bool
  | .reject _ => Unit
  | .isRejected _ => Bool
  | .dropRejections _ => Nat
  | .addApiToken _ _ => Unit
  | .apiTokenByDigest _ => ApiTokenRecord
  | .apiTokensOfUser _ => List ApiTokenRecord
  | .rolesOfApiToken _ => List Role
  | .removeApiToken _ _ => Nat
  | .ping => Unit

/-- The answer to a query, or a failure. -/
abbrev Reply (q : Query) : Type :=
  Except Failure q.Answer

/-- A computation that asks the store. -/
inductive Action (α : Type) : Type where
  | done (value : α)
  | query (q : Query) (next : Reply q → Action α)

namespace Action

variable {α β σ : Type}

/-- Go on with the value of an action. -/
def bind : Action α → (α → Action β) → Action β
  | .done a, f => f a
  | .query q next, f => .query q fun reply => (next reply).bind f

instance : Monad Action where
  pure := .done
  bind := Action.bind

/-- Ask a single query. -/
def ask (q : Query) : Action (Reply q) :=
  .query q .done

/-- Run an action against a store that answers queries and changes with them. -/
def run (answer : σ → (q : Query) → Reply q × σ) : Action α → σ → α × σ
  | .done a, s => (a, s)
  | .query q next, s =>
    let (reply, s) := answer s q
    (next reply).run answer s

@[simp] theorem pure_eq_done (a : α) : (pure a : Action α) = .done a := rfl

@[simp] theorem bind_eq (x : Action α) (f : α → Action β) : x >>= f = x.bind f := rfl

@[simp] theorem done_bind (a : α) (f : α → Action β) : (Action.done a).bind f = f a := rfl

@[simp] theorem bind_done (x : Action α) : x.bind .done = x := by
  induction x with
  | done a => rfl
  | query q next ih => simp only [bind, ih]

theorem bind_assoc {γ : Type} (x : Action α) (f : α → Action β) (g : β → Action γ) :
    (x.bind f).bind g = x.bind fun a => (f a).bind g := by
  induction x with
  | done a => rfl
  | query q next ih => simp only [bind, ih]

/-- An action that follows another one starts in the state that the other one leaves. -/
theorem run_bind (answer : σ → (q : Query) → Reply q × σ) (x : Action α) (f : α → Action β)
    (s : σ) :
    (x.bind f).run answer s = (f (x.run answer s).1).run answer (x.run answer s).2 := by
  induction x generalizing s with
  | done a => rfl
  | query q next ih => exact ih _ _

@[simp] theorem run_done (answer : σ → (q : Query) → Reply q × σ) (a : α) (s : σ) :
    (Action.done a).run answer s = (a, s) := rfl

@[simp] theorem run_ask (answer : σ → (q : Query) → Reply q × σ) (q : Query) (s : σ) :
    (ask q).run answer s = answer s q := rfl

end Action

/-! ## Single queries -/

/-- A computation that asks the store and ends when the store does not answer. -/
abbrev Asking (α : Type) : Type :=
  ExceptT Failure Action α

namespace Asking

/-- Ask a single query. -/
def send (q : Query) : Asking q.Answer :=
  ExceptT.mk (Action.ask q)

/-- The user with an id. -/
def userById (userId : String) : Asking User := send (.userById userId)

/-- The user with a name. -/
def userByName (username : String) : Asking User := send (.userByName username)

/-- The user with an address, and whether the address is verified. -/
def userByEmail (address : String) : Asking (User × Bool) := send (.userByEmail address)

/-- The address to write to. -/
def primaryEmail (userId : String) : Asking EmailAddress := send (.primaryEmail userId)

/-- The roles of a user. -/
def rolesOfUser (userId : String) : Asking (List Role) := send (.rolesOfUser userId)

/-- The permissions of a role. -/
def permissionsOfRole (roleId : String) : Asking (List String) := send (.permissionsOfRole roleId)

/-- Delete a recovery code; was there one? -/
def takeRecoveryCode (userId digest : String) : Asking Bool :=
  send (.takeRecoveryCode userId digest)

/-- Put a token into the ledger. -/
def reject (rejection : Rejection) : Asking Unit := send (.reject rejection)

/-- Is a token in the ledger? -/
def isRejected (tokenId : String) : Asking Bool := send (.isRejected tokenId)

/-- Delete the rejections that expire before a time; how many were there? -/
def dropRejections (before : Time) : Asking Nat := send (.dropRejections before)

/-- Store a token together with its roles. -/
def addApiToken (token : ApiTokenRecord) (roleIds : List String) : Asking Unit :=
  send (.addApiToken token roleIds)

/-- The token with a digest. -/
def apiTokenByDigest (digest : String) : Asking ApiTokenRecord := send (.apiTokenByDigest digest)

/-- The tokens of a user. -/
def apiTokensOfUser (userId : String) : Asking (List ApiTokenRecord) :=
  send (.apiTokensOfUser userId)

/-- The roles of a token. -/
def rolesOfApiToken (tokenId : String) : Asking (List Role) := send (.rolesOfApiToken tokenId)

/-- Delete a token of a user; how many were there? -/
def removeApiToken (tokenId userId : String) : Asking Nat := send (.removeApiToken tokenId userId)

/-- Does the store answer? -/
def ping : Asking Unit := send .ping

end Asking

end Gatehouse.Store
