import Gatehouse.Store.Action

/-!
# Talking to the store - Under interference

Between two queries of an action anybody else may change the store.  What is said of an action here
holds whatever state each of its queries finds, and therefore however the action is interleaved with
others.

Main definition: `Action.Ends`: what an action asks and how it ends.

Main results:

- Theorem `Action.Ends.bind`: one action after the other.
- Theorem `Action.Ends.run`: an action that nobody interferes with.
-/

namespace Gatehouse.Store.Action

variable {α β σ : Type} {answer : σ → (q : Query) → Reply q × σ} {P Q : List Query → α → Prop}

/-- Whatever states its queries find, the action asks queries and ends with a value as `P` says. -/
def Ends (answer : σ → (q : Query) → Reply q × σ) (P : List Query → α → Prop) :
    Action α → Prop
  | .done a => P [] a
  | .query q next => ∀ s, (next (answer s q).1).Ends answer fun asked a => P (q :: asked) a

theorem Ends.mono {x : Action α} (h : x.Ends answer P) (hPQ : ∀ asked a, P asked a → Q asked a) :
    x.Ends answer Q := by
  induction x generalizing P Q with
  | done a => exact hPQ [] a h
  | query q next ih =>
      intro s
      exact ih _ (h s) fun asked a => hPQ (q :: asked) a

/-- Nothing has to be looked at where everything is right. -/
theorem ends_of_forall (x : Action α) (h : ∀ asked a, P asked a) : x.Ends answer P := by
  induction x generalizing P with
  | done a => exact h [] a
  | query q next ih =>
      intro s
      exact ih _ fun asked a => h (q :: asked) a

theorem Ends.and {x : Action α} (hP : x.Ends answer P) (hQ : x.Ends answer Q) :
    x.Ends answer fun asked a => P asked a ∧ Q asked a := by
  induction x generalizing P Q with
  | done a => exact ⟨hP, hQ⟩
  | query q next ih =>
      intro s
      exact ih _ (hP s) (hQ s)

/-- An action that follows another one asks its queries after those of the other one. -/
theorem Ends.bind {x : Action α} {f : α → Action β} {R : List Query → β → Prop}
    (hx : x.Ends answer P)
    (hf : ∀ asked a, P asked a → (f a).Ends answer fun asked' b => R (asked ++ asked') b) :
    (x.bind f).Ends answer R := by
  induction x generalizing P R with
  | done a => exact hf [] a hx
  | query q next ih =>
      intro s
      exact ih _ (hx s) fun asked a => hf (q :: asked) a

/-- An action that nobody interferes with ends like one that is interfered with. -/
theorem Ends.run {x : Action α} (h : x.Ends answer P) (s : σ) :
    ∃ asked, P asked (x.run answer s).1 := by
  induction x generalizing P s with
  | done a => exact ⟨[], h⟩
  | query q next ih =>
      obtain ⟨asked, hasked⟩ := ih _ (h s) (answer s q).2
      exact ⟨q :: asked, hasked⟩

end Gatehouse.Store.Action
