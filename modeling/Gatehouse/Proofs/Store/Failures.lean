import Gatehouse.Proofs.Store.Exchange

/-!
# Talking to the store - When the store fails

Nothing is known here of the store: it may be any that replies to queries and changes with them, and
each of its replies may be a failure.  Some failures only say that there is no such record.  With any
other failure the store has failed, and an action that goes on as if nothing had happened goes on
from something that it does not know.

Main definitions:

- `Action.exchanges`: the queries of a run with the replies to them.
- `Action.MeetsFailure`: the store fails during a run.
- `Action.FailsTo`: how an action ends when the store fails, whatever store it is.

Main results:

- Theorem `Action.exchanges_bind`: one action after the other.
- Theorem `Action.FailsTo.bind`: an action whose parts end as they have to when the store fails.
- Theorem `Asking.Reports.bind`: questions that tell of the failures that they meet.
-/

namespace Gatehouse.Store

/-- The store failed: its reply is a failure that does not say that there is no such record. -/
def Exchange.Failed (x : Exchange) : Prop :=
  ∃ f, x.reply = .error f ∧ f.isNotFound = false

namespace Action

variable {α β σ : Type}

/-- The queries of a run in their order, with the replies to them. -/
def exchanges (answer : σ → (q : Query) → Reply q × σ) : Action α → σ → List Exchange
  | .done _, _ => []
  | .query q next, s =>
    ⟨q, (answer s q).1⟩ :: (next (answer s q).1).exchanges answer (answer s q).2

/-- An action that follows another one has its exchanges after those of the other one. -/
theorem exchanges_bind (answer : σ → (q : Query) → Reply q × σ) (x : Action α) (f : α → Action β)
    (s : σ) :
    (x.bind f).exchanges answer s =
      x.exchanges answer s ++ (f (x.run answer s).1).exchanges answer (x.run answer s).2 := by
  induction x generalizing s with
  | done a => rfl
  | query q next ih => exact congrArg (_ :: ·) (ih _ _)

/-- The store fails during a run of the action. -/
def MeetsFailure (answer : σ → (q : Query) → Reply q × σ) (x : Action α) (s : σ) : Prop :=
  ∃ e ∈ x.exchanges answer s, e.Failed

/-- An action that does not ask meets no failure. -/
theorem not_meetsFailure_done (answer : σ → (q : Query) → Reply q × σ) (a : α) (s : σ) :
    ¬(Action.done a).MeetsFailure answer s := by
  rintro ⟨e, he, -⟩
  cases he

/-- A failure is met in the first of two actions or in the second one. -/
theorem meetsFailure_bind {answer : σ → (q : Query) → Reply q × σ} {x : Action α}
    {f : α → Action β} {s : σ} (h : (x.bind f).MeetsFailure answer s) :
    x.MeetsFailure answer s ∨ (f (x.run answer s).1).MeetsFailure answer (x.run answer s).2 := by
  obtain ⟨e, he, failed⟩ := h
  rw [exchanges_bind] at he
  rcases List.mem_append.1 he with first | second
  · exact .inl ⟨e, first, failed⟩
  · exact .inr ⟨e, second, failed⟩

/-- Whatever store it runs against, the action ends as `P` says when the store fails. -/
def FailsTo (P : α → Prop) (x : Action α) : Prop :=
  ∀ (σ : Type) (answer : σ → (q : Query) → Reply q × σ) (s : σ),
    x.MeetsFailure answer s → P (x.run answer s).1

variable {P : α → Prop} {Q : β → Prop}

/-- An action that does not ask need not care. -/
theorem failsTo_done (a : α) : (Action.done a).FailsTo P :=
  fun _ answer s met => absurd met (not_meetsFailure_done answer a s)

/-- Two actions end as they have to when a failure in the first one leaves nothing to be asked. -/
theorem FailsTo.bind {x : Action α} {f : α → Action β} (hx : x.FailsTo P)
    (stops : ∀ a, P a → ∃ b, f a = .done b ∧ Q b) (hf : ∀ a, (f a).FailsTo Q) :
    (x.bind f).FailsTo Q := by
  intro σ answer s met
  rw [run_bind]
  rcases meetsFailure_bind met with first | second
  · obtain ⟨b, stopped, hb⟩ := stops _ (hx σ answer s first)
    rw [stopped]
    exact hb
  · exact hf _ σ answer _ second

end Action

/-! ## Questions -/

namespace Asking

variable {α β : Type}

/-- Whatever the store is, the question tells of the failure that it meets. -/
structure Reports (x : Asking α) : Prop where
  ends : x.run.FailsTo fun r => ∃ f, r = .error f ∧ f.isNotFound = false

theorem reports_pure (a : α) : Asking.Reports (pure a : Asking α) := ⟨Action.failsTo_done _⟩

/-- A single query tells what the store told. -/
theorem reports_send (q : Query) : (send q).Reports where
  ends := by
    rintro σ answer s ⟨e, he, f, failed, grave⟩
    obtain rfl := List.mem_singleton.1 he
    exact ⟨f, failed, grave⟩

/-- Of two questions the second one is not put where the first one fails. -/
theorem Reports.bind {x : Asking α} {f : α → Asking β} (hx : x.Reports)
    (hf : ∀ a, (f a).Reports) : Asking.Reports (x >>= f) where
  ends := by
    refine Action.FailsTo.bind hx.ends ?_ ?_
    · rintro r ⟨failure, rfl, grave⟩
      exact ⟨.error failure, rfl, failure, rfl, grave⟩
    · intro r
      cases r with
      | ok a => exact (hf a).ends
      | error failure => exact Action.failsTo_done _

end Asking

end Gatehouse.Store
