import Gatehouse.Access.Ledger
import Gatehouse.Proofs.Access.Flow

/-!
# The ledger of rejected tokens - Rows

What the ledger says about a token after a session ended and after rows were dropped.  A row counts
until its own date, so the question is always whether it is dated late enough.

Main definitions:

- `Memory.rejects`: whether a token is rejected.
- `Memory.withEnded`: the store after a session ended.
- `Memory.KeepsUntil`: a name has a row that is dated no earlier than a time.

Main results:

- Theorem `Ledger.runOn_isRejected` and theorem `Ledger.runOn_endSession`: the operations of the
  ledger on the store in memory.
- Theorem `Memory.find?_withEnded` and theorem `Memory.find?_dropRejections`: the ledger after a
  session ended and after rows were dropped.
-/

namespace Gatehouse.Store.Memory

open Access (Ledger.rowOf Ledger.parentRow)
open Token (Claims Time)

variable {m : Memory} {c : Config} {claims : Claims} {name : String} {t : Time}

/-- Is the token, or the one that it was derived from, in the ledger? -/
def rejects (m : Memory) (claims : Claims) : Bool :=
  m.rejections.contains claims.id || claims.parent?.any m.rejections.contains

/-- The store with one more row in its ledger. -/
def withRow (m : Memory) (row : Rejection) : Memory :=
  { m with rejections := m.rejections.put row }

/-- The store after the session of a token ended. -/
def withEnded (m : Memory) (c : Config) (claims : Claims) : Memory :=
  match claims.parent? with
  | some parent =>
    (m.withRow (Ledger.rowOf claims)).withRow (Ledger.parentRow c.longestRefreshTtl claims parent)
  | none => m.withRow (Ledger.rowOf claims)

/-- What the ledger says about a name after a row was added. -/
theorem find?_withRow (row : Rejection) (name : String) :
    (m.withRow row).rejections.find? name =
      if name = row.tokenId then some row else m.rejections.find? name :=
  m.rejections.find?_put row name

/-- What the ledger says about a name after a session ended. -/
theorem find?_withEnded (name : String) :
    (m.withEnded c claims).rejections.find? name =
      if claims.parent? = some name then
        some (Ledger.parentRow c.longestRefreshTtl claims name)
      else if name = claims.id then some (Ledger.rowOf claims)
      else m.rejections.find? name := by
  unfold withEnded
  cases claims.parent? with
  | none =>
      rw [if_neg (by simp)]
      exact find?_withRow _ _
  | some parent =>
      simp only [find?_withRow]
      by_cases same : name = parent
      · subst same
        rw [if_pos rfl]
        exact if_pos rfl
      · rw [if_neg (c := some parent = some name) (by simpa using Ne.symm same)]
        exact if_neg same

/-- Only the ledger changes when a session ends. -/
theorem withEnded_eq (m : Memory) (c : Config) (claims : Claims) :
    m.withEnded c claims = { m with rejections := (m.withEnded c claims).rejections } := by
  unfold withEnded
  split <;> rfl

/-- Only the names of the token and of the one that it was derived from get new rows. -/
theorem named_of_withEnded_ne
    (changed : (m.withEnded c claims).rejections.find? name ≠ m.rejections.find? name) :
    name = claims.id ∨ claims.parent? = some name := by
  rw [find?_withEnded] at changed
  by_cases parent : claims.parent? = some name
  · exact .inr parent
  · by_cases own : name = claims.id
    · exact .inl own
    · rw [if_neg parent, if_neg own] at changed
      exact absurd rfl changed

/-- What the ledger says about a name after rows were dropped. -/
theorem find?_dropRejections (before : Time) (name : String) :
    (m.dropRejections before).2.rejections.find? name =
      (m.rejections.find? name).filter fun row => before ≤ row.expiresAt :=
  m.rejections.find?_filter _ name

/-! ## Dates of rows -/

/-- A name has a row that is dated no earlier than `t`. -/
def KeepsUntil (m : Memory) (name : String) (t : Time) : Prop :=
  ∃ row, m.rejections.find? name = some row ∧ t ≤ row.expiresAt

/-- A name with a row is in the ledger. -/
theorem contains_of_keepsUntil (h : m.KeepsUntil name t) : m.rejections.contains name = true := by
  obtain ⟨row, hrow, -⟩ := h
  rw [Register.contains_eq_isSome, hrow]
  rfl

/-- A row stays when a session ends, unless the session puts an earlier date in its place. -/
theorem keepsUntil_withEnded (h : m.KeepsUntil name t)
    (own : name = claims.id → t ≤ claims.expiresAt)
    (parent : claims.parent? = some name →
      t ≤ Token.expiry claims.issuedAt c.longestRefreshTtl) :
    (m.withEnded c claims).KeepsUntil name t := by
  unfold KeepsUntil
  rw [find?_withEnded]
  split
  · exact ⟨_, rfl, parent ‹_›⟩
  · split
    · exact ⟨_, rfl, own ‹_›⟩
    · exact h

/-- A token whose session ended has a row until it expires. -/
theorem keepsUntil_id_withEnded (h : claims.parent? ≠ some claims.id) :
    (m.withEnded c claims).KeepsUntil claims.id claims.expiresAt := by
  refine ⟨Ledger.rowOf claims, ?_, Int.le_refl _⟩
  rw [find?_withEnded, if_neg h, if_pos rfl]

/-- The token that it was derived from has a row for the longest lifetime that it can have. -/
theorem keepsUntil_parent_withEnded {parent : String} (h : claims.parent? = some parent) :
    (m.withEnded c claims).KeepsUntil parent
      (Token.expiry claims.issuedAt c.longestRefreshTtl) := by
  refine ⟨Ledger.parentRow c.longestRefreshTtl claims parent, ?_, Int.le_refl _⟩
  rw [find?_withEnded, if_pos h]

end Gatehouse.Store.Memory

/-! ## Operations -/

namespace Gatehouse.Access.Ledger

open Store (Asking Memory)
open Token (Claims Time)

variable {m : Memory}

/-- The ledger says whether a token is rejected. -/
theorem runOn_isRejected (claims : Claims) :
    (isRejected claims).runOn m = (.ok (m.rejects claims), m) := by
  have own : (Asking.isRejected claims.id).runOn m =
      (.ok (m.rejections.contains claims.id), m) := rfl
  rw [isRejected, Asking.runOn_bind own]
  unfold Memory.rejects
  cases m.rejections.contains claims.id with
  | true => rfl
  | false =>
      cases claims.parent? with
      | none => rfl
      | some parent => exact Asking.runOn_send _

/-- The rows of a session that ends. -/
theorem runOn_endSession (c : Config) (claims : Claims) :
    (endSession c claims).runOn m = (.ok (), m.withEnded c claims) := by
  have own : (rejectToken claims).runOn m = (.ok (), m.withRow (rowOf claims)) := rfl
  rw [endSession, Asking.runOn_bind own]
  unfold Memory.withEnded
  cases claims.parent? with
  | none => rfl
  | some parent => rfl

/-- The rows that are dropped. -/
theorem runOn_cleanup (now : Time) :
    (cleanup now).runOn m = (.ok (m.dropRejections now).1, (m.dropRejections now).2) := rfl

end Gatehouse.Access.Ledger
