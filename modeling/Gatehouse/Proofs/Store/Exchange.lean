import Gatehouse.Proofs.Store.Interference

/-!
# Talking to the store - Queries and replies

Where it matters what an action was told, its queries alone do not say enough.  Here they are kept
together with the replies.  As with the queries alone, what is said of an action holds whatever state
each of its queries finds.

Main definitions:

- `Exchange`: a query with the reply to it.
- `Action.Tells`: what an action asks, what it is told and how it ends.

Main results:

- Theorem `Action.Tells.bind`: one action after the other.
- Theorem `Action.Ends.tells`: an action whose replies do not matter.
- Theorem `Action.Tells.exists_completion`: an action that has not ended can still end.
-/

namespace Gatehouse.Store

/-- A query with the reply to it. -/
structure Exchange where
  query : Query
  reply : Reply query

namespace Action

variable {α β σ : Type} {answer : σ → (q : Query) → Reply q × σ} {P Q : List Exchange → α → Prop}

/-- Whatever states its queries find, the action asks, is told and ends as `P` says. -/
def Tells (answer : σ → (q : Query) → Reply q × σ) (P : List Exchange → α → Prop) :
    Action α → Prop
  | .done a => P [] a
  | .query q next => ∀ s, (next (answer s q).1).Tells answer fun told a =>
      P (⟨q, (answer s q).1⟩ :: told) a

theorem Tells.mono {x : Action α} (h : x.Tells answer P) (hPQ : ∀ told a, P told a → Q told a) :
    x.Tells answer Q := by
  induction x generalizing P Q with
  | done a => exact hPQ [] a h
  | query q next ih =>
      intro s
      exact ih _ (h s) fun told a => hPQ (⟨q, _⟩ :: told) a

/-- An action that follows another one has its exchanges after those of the other one. -/
theorem Tells.bind {x : Action α} {f : α → Action β} {R : List Exchange → β → Prop}
    (hx : x.Tells answer P)
    (hf : ∀ told a, P told a → (f a).Tells answer fun told' b => R (told ++ told') b) :
    (x.bind f).Tells answer R := by
  induction x generalizing P R with
  | done a => exact hf [] a hx
  | query q next ih =>
      intro s
      exact ih _ (hx s) fun told a => hf (⟨q, _⟩ :: told) a

/-- What is known of the queries alone is known of the exchanges. -/
theorem Ends.tells {x : Action α} {P : List Query → α → Prop} (h : x.Ends answer P) :
    x.Tells answer fun told a => P (told.map (·.query)) a := by
  induction x generalizing P with
  | done a => exact h
  | query q next ih =>
      intro s
      exact ih _ (h s)

/-- From every state on, an action can still end. -/
theorem Tells.exists_completion {x : Action α} (h : x.Tells answer P) (s : σ) :
    ∃ told a, P told a := by
  induction x generalizing P with
  | done a => exact ⟨[], a, h⟩
  | query q next ih =>
      obtain ⟨told, a, ended⟩ := ih _ (h s)
      exact ⟨⟨q, (answer s q).1⟩ :: told, a, ended⟩

end Action

end Gatehouse.Store
