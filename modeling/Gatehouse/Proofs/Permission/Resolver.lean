import Gatehouse.Permission.Resolver

/-!
# Resolving permissions - What is in the result

The result of resolving permissions holds what each requested permission stands for and nothing else,
so that whoever requests more gets no less.

Main results:

- Theorem `pairwise_sortedSet` and theorem `sortedSet_eq_iff`: the result ascends and depends on its
  members alone.
- Theorem `Resolver.mem_resolve`: the permissions that the requested ones stand for.
- Theorem `Resolver.resolve_subset`: whoever requests more gets no less.
-/

namespace Gatehouse.Permission

variable {s x : String} {ids requested more : List String}

theorem mem_insertSorted : x ∈ insertSorted s ids ↔ x = s ∨ x ∈ ids := by
  induction ids with
  | nil => simp [insertSorted]
  | cons y ids ih =>
      unfold insertSorted
      split
      · simp
      · split
        · rename_i same
          simp [same]
        · simp only [List.mem_cons, ih]
          exact or_left_comm

theorem pairwise_insertSorted (h : ids.Pairwise (· < ·)) :
    (insertSorted s ids).Pairwise (· < ·) := by
  induction ids with
  | nil => simp [insertSorted]
  | cons y ids ih =>
      have later := List.pairwise_cons.1 h
      unfold insertSorted
      split
      · rename_i before
        refine List.pairwise_cons.2 ⟨?_, h⟩
        intro x hx
        rcases List.mem_cons.1 hx with rfl | mem
        · exact before
        · exact String.lt_trans before (later.1 x mem)
      · split
        · exact h
        · rename_i notBefore other
          refine List.pairwise_cons.2 ⟨?_, ih later.2⟩
          intro x hx
          rcases mem_insertSorted.1 hx with rfl | mem
          · exact Std.lt_of_le_of_ne (Std.not_lt.1 notBefore) (Ne.symm other)
          · exact later.1 x mem

/-- The result of sorting ascends and holds each text once. -/
theorem pairwise_sortedSet (ids : List String) : (sortedSet ids).Pairwise (· < ·) := by
  induction ids with
  | nil => exact .nil
  | cons y ids ih => exact pairwise_insertSorted ih

/-- Sorting takes nothing away and adds nothing. -/
@[simp] theorem mem_sortedSet : x ∈ sortedSet ids ↔ x ∈ ids := by
  induction ids with
  | nil => simp [sortedSet]
  | cons y ids ih =>
      rw [sortedSet, List.foldr_cons, mem_insertSorted, List.mem_cons]
      exact or_congr Iff.rfl ih

theorem nodup_of_pairwise_lt (h : ids.Pairwise (· < ·)) : ids.Nodup := by
  refine h.imp ?_
  rintro x y less rfl
  exact String.lt_irrefl x less

/-- An ascending list is known by its members. -/
theorem eq_of_pairwise_lt (h : ids.Pairwise (· < ·)) (h' : more.Pairwise (· < ·))
    (same : ∀ x, x ∈ ids ↔ x ∈ more) : ids = more := by
  have perm : ids.Perm more :=
    (List.perm_ext_iff_of_nodup (nodup_of_pairwise_lt h) (nodup_of_pairwise_lt h')).2 same
  exact perm.eq_of_pairwise (fun x y _ _ less greater => absurd greater (String.lt_asymm less)) h h'

/-- Sorting depends on the members alone. -/
theorem sortedSet_eq_iff : sortedSet ids = sortedSet more ↔ ∀ x, x ∈ ids ↔ x ∈ more := by
  constructor
  · intro same x
    rw [← mem_sortedSet, same, mem_sortedSet]
  · intro same
    refine eq_of_pairwise_lt (pairwise_sortedSet ids) (pairwise_sortedSet more) ?_
    simpa using same

namespace Resolver

/-- What a requested permission stands for. -/
def expand : Resolver → String → List String
  | .tree t, id => t.expand id
  | .flat, id => [id]

/-- The permissions that the requested ones stand for. -/
theorem mem_resolve (r : Resolver) :
    x ∈ r.resolve requested ↔ ∃ id ∈ requested, x ∈ r.expand id := by
  cases r with
  | tree t => simp [resolve, Tree.resolve, expand]
  | flat => simp [resolve, expand]

/-- Whoever requests more gets no less. -/
theorem resolve_subset (r : Resolver) (h : ∀ id ∈ requested, id ∈ more) :
    ∀ x ∈ r.resolve requested, x ∈ r.resolve more := by
  intro x hx
  obtain ⟨id, hid, stands⟩ := r.mem_resolve.1 hx
  exact r.mem_resolve.2 ⟨id, h id hid, stands⟩

end Resolver

end Gatehouse.Permission
