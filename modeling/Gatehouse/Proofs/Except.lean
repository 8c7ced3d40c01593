import Mathlib.Data.List.Forall2

/-!
# Computations that can fail - Taking them apart

A computation that ends well had parts that ended well, and a list that is read item by item had
items that were read.

Main results:

- Theorem `exists_of_bind_eq_ok`: what a computation ends with comes from its first part.
- Theorem `forall₂_of_mapM_eq_ok`: the items of a list that is read are the items read.
- Theorem `exists_mapM_eq_ok_iff` and theorem `mapM_eq_error_iff`: a list is read when all its items
  are, and else fails as the first item does that cannot be read.
- Theorem `foldlM_induction`: what every step of a fold keeps holds at the end.
-/

namespace Gatehouse

open List (Forall₂)

variable {α β ε : Type} {l : List α} {l' : List β}

/-- What a computation ends with comes from what its first part ends with. -/
theorem exists_of_bind_eq_ok {x : Except ε α} {f : α → Except ε β} {b : β}
    (h : x >>= f = .ok b) : ∃ a, x = .ok a ∧ f a = .ok b := by
  cases x with
  | error e => cases h
  | ok a => exact ⟨a, rfl, h⟩

/-- The items of a list that is read are the items read. -/
theorem forall₂_of_mapM_eq_ok {f : α → Except ε β} (h : l.mapM f = .ok l') :
    Forall₂ (fun a b => f a = .ok b) l l' := by
  induction l generalizing l' with
  | nil =>
      cases h
      exact .nil
  | cons a l ih =>
      rw [List.mapM_cons] at h
      obtain ⟨b, first, h₁⟩ := exists_of_bind_eq_ok h
      obtain ⟨bs, rest, h₂⟩ := exists_of_bind_eq_ok h₁
      cases h₂
      exact .cons first (ih rest)

/-- A list is read when all its items are. -/
theorem exists_mapM_eq_ok_iff {f : α → Except ε β} :
    (∃ l', l.mapM f = .ok l') ↔ ∀ a ∈ l, ∃ b, f a = .ok b := by
  induction l with
  | nil => exact ⟨fun _ => nofun, fun _ => ⟨[], rfl⟩⟩
  | cons a l ih =>
      rw [List.forall_mem_cons, ← ih]
      constructor
      · rintro ⟨l', read⟩
        rw [List.mapM_cons] at read
        obtain ⟨b, first, read⟩ := exists_of_bind_eq_ok read
        obtain ⟨bs, rest, -⟩ := exists_of_bind_eq_ok read
        exact ⟨⟨b, first⟩, bs, rest⟩
      · rintro ⟨⟨b, first⟩, bs, rest⟩
        refine ⟨b :: bs, ?_⟩
        rw [List.mapM_cons, first, rest]
        rfl

/-- A computation fails when its first part does, or when that part ends well and what follows
fails. -/
theorem bind_eq_error_iff {x : Except ε α} {f : α → Except ε β} {e : ε} :
    x >>= f = .error e ↔ x = .error e ∨ ∃ a, x = .ok a ∧ f a = .error e := by
  cases x with
  | error failure => simp [bind, Except.bind]
  | ok a => simp [bind, Except.bind]

/-- A list is not read when an item cannot be read, and of several such items the first one tells
why. -/
theorem mapM_eq_error_iff {f : α → Except ε β} {e : ε} :
    l.mapM f = .error e ↔ ∃ before a after, l = before ++ a :: after ∧
      (∀ x ∈ before, ∃ b, f x = .ok b) ∧ f a = .error e := by
  induction l with
  | nil => simp [pure, Except.pure]
  | cons a l ih =>
      rw [List.mapM_cons, bind_eq_error_iff]
      constructor
      · rintro (failed | ⟨b, first, failed⟩)
        · exact ⟨[], a, l, rfl, nofun, failed⟩
        · rcases bind_eq_error_iff.1 failed with failed | ⟨bs, -, impossible⟩
          · obtain ⟨before, x, after, rfl, earlier, failed⟩ := ih.1 failed
            exact ⟨a :: before, x, after, rfl, List.forall_mem_cons.2 ⟨⟨b, first⟩, earlier⟩, failed⟩
          · cases impossible
      · rintro ⟨before, x, after, place, earlier, failed⟩
        cases before with
        | nil =>
            cases place
            exact .inl failed
        | cons first before =>
            cases place
            obtain ⟨⟨b, read⟩, earlier⟩ := List.forall_mem_cons.1 earlier
            refine .inr ⟨b, read, bind_eq_error_iff.2 (.inl ?_)⟩
            exact ih.2 ⟨before, x, after, rfl, earlier, failed⟩

/-- What every step of a fold keeps holds at the end of a fold that ends well. -/
theorem foldlM_induction {P : β → Prop} {f : β → α → Except ε β} {init result : β}
    (start : P init) (step : ∀ b a b', P b → f b a = .ok b' → P b')
    (h : l.foldlM f init = .ok result) : P result := by
  induction l generalizing init with
  | nil =>
      cases h
      exact start
  | cons a l ih =>
      rw [List.foldlM_cons] at h
      obtain ⟨b, first, rest⟩ := exists_of_bind_eq_ok h
      exact ih (step init a b start first) rest

/-- Of two lists whose items answer a test alike, the first items that pass belong together. -/
theorem find?_of_forall₂ {related : α → β → Prop} {p : α → Bool} {q : β → Bool}
    (h : Forall₂ related l l') (alike : ∀ a b, related a b → p a = q b) :
    Option.Rel related (l.find? p) (l'.find? q) := by
  induction h with
  | nil => exact .none
  | @cons a b l l' hab hrest ih =>
      rw [List.find?_cons, List.find?_cons, alike a b hab]
      cases q b with
      | true => exact .some hab
      | false => exact ih

end Gatehouse
