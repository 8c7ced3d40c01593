import Gatehouse.Token.Issuer
import Gatehouse.Store.Action

/-!
# The ledger of rejected tokens

A row of the ledger rejects the token with its id and all tokens that were derived from that one.
Tokens derived from those are not looked at.

Main definitions: `Ledger.isRejected`, `Ledger.rejectToken`, `Ledger.endSession` and
`Ledger.cleanup`.
-/

namespace Gatehouse.Access.Ledger

open Store (Asking Rejection)
open Token (Claims Time)

/-- Is the token, or the one it was derived from, in the ledger? -/
def isRejected (claims : Claims) : Asking Bool := do
  if ← Asking.isRejected claims.id then return true
  match claims.parent? with
  | some parent => Asking.isRejected parent
  | none => return false

/-- The row that rejects a token. -/
def rowOf (claims : Claims) : Rejection :=
  ⟨claims.id, claims.subject, claims.issuedAt, claims.expiresAt⟩

/-- The row that rejects the token with the id `parent`, from which a token with the given claims
was derived.  The row is kept for the longest lifetime that the rejected token can have. -/
def parentRow (lifetime : Nat) (claims : Claims) (parent : String) : Rejection :=
  ⟨parent, claims.subject, claims.issuedAt, Token.expiry claims.issuedAt lifetime⟩

/-- Put the token into the ledger, and not the one it was derived from. -/
def rejectToken (claims : Claims) : Asking Unit :=
  Asking.reject (rowOf claims)

/-- Put the token into the ledger, and then the one it was derived from. -/
def endSession (c : Config) (claims : Claims) : Asking Unit := do
  rejectToken claims
  match claims.parent? with
  | some parent => Asking.reject (parentRow c.longestRefreshTtl claims parent)
  | none => return ()

/-- Delete the rows of tokens that expired before a time; how many were there? -/
def cleanup (now : Time) : Asking Nat :=
  Asking.dropRejections now

end Gatehouse.Access.Ledger
