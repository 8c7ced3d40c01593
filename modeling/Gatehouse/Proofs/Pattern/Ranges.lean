import Gatehouse.Pattern.Parser

/-!
# Patterns - Sets of characters

Sets of characters are kept as ranges of codes that are sorted and joined whenever sets are put
together.  Whatever the ranges of the operands overlap, the result holds of just the characters that
the operation names.

Main definition: `Ranges.Spans`, the code is in one of the ranges.

Main results:

- Theorem `Ranges.spans_joinFrom` and theorem `Ranges.ascending_joined`: joining ranges keeps their
  codes and leaves gaps between them.
- Theorem `Ranges.contains_union`, theorem `Ranges.contains_inter` and theorem
  `Ranges.contains_complement`: the codes of unions, intersections and complements.
- Theorem `SetOp.contains_apply`: the characters of two sets with an operation between them.
-/

namespace Gatehouse.Unicode.Ranges

variable {code low high last next : Nat} {ranges rest : List (Nat × Nat)} {r s : Ranges}

/-- The code is in one of the ranges. -/
def Spans (ranges : List (Nat × Nat)) (code : Nat) : Prop :=
  ∃ range ∈ ranges, range.1 ≤ code ∧ code ≤ range.2

@[simp] theorem spans_nil : ¬Spans [] code := by
  rintro ⟨range, mem, -⟩
  cases mem

@[simp] theorem spans_cons {range : Nat × Nat} :
    Spans (range :: rest) code ↔ (range.1 ≤ code ∧ code ≤ range.2) ∨ Spans rest code := by
  simp [Spans]

@[simp] theorem spans_append : Spans (ranges ++ rest) code ↔ Spans ranges code ∨ Spans rest code := by
  simp [Spans, or_and_right, exists_or]

theorem contains_iff : r.contains code = true ↔ Spans r.ranges code := by
  simp [contains, Spans]

/-! ## Joining ranges -/

/-- The ranges begin at `next` or later. -/
def BeginAfter (next : Nat) (ranges : List (Nat × Nat)) : Prop :=
  ∀ range ∈ ranges, next ≤ range.1

/-- The ranges are sorted by where they begin. -/
def Sorted (ranges : List (Nat × Nat)) : Prop :=
  ranges.Pairwise fun a b => a.1 ≤ b.1

/-- The ranges begin at `next` or later, are not empty and leave gaps between them. -/
def Ascending (next : Nat) : List (Nat × Nat) → Prop
  | [] => True
  | (low, high) :: rest => next ≤ low ∧ low ≤ high ∧ Ascending (high + 2) rest

theorem Ascending.mono {next' : Nat} (ascending : Ascending next ranges) (earlier : next' ≤ next) :
    Ascending next' ranges := by
  cases ranges with
  | nil => trivial
  | cons range rest => exact ⟨Nat.le_trans earlier ascending.1, ascending.2⟩

/-- Ranges that begin at a code or later have no code before it. -/
theorem Ascending.le_of_spans (ascending : Ascending next ranges) (inside : Spans ranges code) :
    next ≤ code := by
  induction ranges generalizing next with
  | nil => exact absurd inside spans_nil
  | cons range rest ih =>
      obtain ⟨begin, filled, later⟩ := ascending
      rcases spans_cons.1 inside with here | there
      · exact Nat.le_trans begin here.1
      · have := ih later there
        omega

/-- A range joined with sorted ones behind it keeps its codes and theirs. -/
theorem spans_joinFrom (sorted : Sorted ranges) (behind : BeginAfter low ranges) :
    Spans (joinFrom low high ranges) code ↔
      (low ≤ code ∧ code ≤ high) ∨ Spans ranges code := by
  induction ranges generalizing low high with
  | nil => simp [joinFrom]
  | cons range rest ih =>
      obtain ⟨low', high'⟩ := range
      obtain ⟨above, sorted⟩ := List.pairwise_cons.1 sorted
      have first : low ≤ low' := behind _ List.mem_cons_self
      -- The range takes in the next one where they touch, even if that one ends before it does.
      by_cases touch : low' ≤ high + 1
      · have behind' : BeginAfter low rest := fun range mem => Nat.le_trans first (above range mem)
        rw [joinFrom, if_pos touch, ih sorted behind', spans_cons, ← or_assoc]
        refine or_congr_left ?_
        simp only
        omega
      · rw [joinFrom, if_neg touch, spans_cons, ih sorted above, spans_cons]

/-- A range joined with sorted ones behind it leaves gaps. -/
theorem ascending_joinFrom (sorted : Sorted ranges) (behind : BeginAfter low ranges)
    (filled : ∀ range ∈ ranges, range.1 ≤ range.2) (begin : next ≤ low) (here : low ≤ high) :
    Ascending next (joinFrom low high ranges) := by
  induction ranges generalizing next low high with
  | nil => exact ⟨begin, here, trivial⟩
  | cons range rest ih =>
      obtain ⟨low', high'⟩ := range
      obtain ⟨above, sorted⟩ := List.pairwise_cons.1 sorted
      obtain ⟨filled', filled⟩ := List.forall_mem_cons.1 filled
      have first : low ≤ low' := behind _ List.mem_cons_self
      by_cases touch : low' ≤ high + 1
      · rw [joinFrom, if_pos touch]
        exact ih sorted (fun range mem => Nat.le_trans first (above range mem)) filled begin
          (Nat.le_trans here (Nat.le_max_left ..))
      · rw [joinFrom, if_neg touch]
        exact ⟨begin, here, ih sorted above filled (by omega) filled'⟩

/-- Sorting leaves ranges sorted by where they begin. -/
theorem sorted_mergeSort (ranges : List (Nat × Nat)) :
    Sorted (ranges.mergeSort fun a b => a.1 ≤ b.1) := by
  refine (List.pairwise_mergeSort ?_ ?_ ranges).imp of_decide_eq_true
  · intro a b c first second
    exact decide_eq_true (Nat.le_trans (of_decide_eq_true first) (of_decide_eq_true second))
  · intro a b
    simpa using Nat.le_total a.1 b.1

/-- Joining sorted ranges keeps their codes. -/
theorem spans_joined (sorted : Sorted ranges) : Spans (joined ranges) code ↔ Spans ranges code := by
  cases ranges with
  | nil => rfl
  | cons range rest =>
      obtain ⟨above, sorted⟩ := List.pairwise_cons.1 sorted
      rw [joined, spans_joinFrom sorted above, spans_cons]

/-- Joining sorted ranges leaves gaps between them. -/
theorem ascending_joined (sorted : Sorted ranges) (filled : ∀ range ∈ ranges, range.1 ≤ range.2) :
    Ascending 0 (joined ranges) := by
  cases ranges with
  | nil => trivial
  | cons range rest =>
      obtain ⟨above, sorted⟩ := List.pairwise_cons.1 sorted
      obtain ⟨here, filled⟩ := List.forall_mem_cons.1 filled
      exact ascending_joinFrom sorted above filled (Nat.zero_le _) here

/-- The codes of a set that is given by ranges in any order. -/
theorem contains_ofList : (ofList ranges).contains code = true ↔ Spans ranges code := by
  rw [contains_iff, ofList, spans_joined (sorted_mergeSort _)]
  simp only [Spans, List.mem_mergeSort, List.mem_filter, decide_eq_true_eq]
  constructor
  · rintro ⟨range, ⟨mem, -⟩, inside⟩
    exact ⟨range, mem, inside⟩
  · rintro ⟨range, mem, inside⟩
    exact ⟨range, ⟨mem, Nat.le_trans inside.1 inside.2⟩, inside⟩

/-- A set that is given by ranges in any order leaves gaps between its own. -/
theorem ascending_ofList (ranges : List (Nat × Nat)) : Ascending 0 (ofList ranges).ranges := by
  refine ascending_joined (sorted_mergeSort _) fun range mem => ?_
  simpa using (List.mem_filter.1 (List.mem_mergeSort.1 mem)).2

/-! ## Operations -/

/-- The codes of two sets. -/
@[simp] theorem contains_union : (r.union s).contains code = (r.contains code || s.contains code) := by
  rw [Bool.eq_iff_iff, union, contains_ofList, spans_append, Bool.or_eq_true, contains_iff,
    contains_iff]

/-- The codes of several sets. -/
theorem contains_unionAll (sets : List Ranges) :
    (unionAll sets).contains code = sets.any (·.contains code) := by
  rw [Bool.eq_iff_iff, unionAll, contains_ofList, List.any_eq_true]
  simp only [Spans, List.mem_flatMap, contains_iff]
  constructor
  · rintro ⟨range, ⟨set, mem, own⟩, inside⟩
    exact ⟨set, mem, range, own, inside⟩
  · rintro ⟨set, mem, range, own, inside⟩
    exact ⟨range, ⟨set, mem, own⟩, inside⟩

/-- Two ranges have a code in common just where their common part has it. -/
theorem spans_common {range range' : Nat × Nat} :
    (∃ common, (if max range.1 range'.1 ≤ min range.2 range'.2 then
        some (max range.1 range'.1, min range.2 range'.2) else none) = some common ∧
      common.1 ≤ code ∧ code ≤ common.2) ↔
      (range.1 ≤ code ∧ code ≤ range.2) ∧ range'.1 ≤ code ∧ code ≤ range'.2 := by
  by_cases meet : max range.1 range'.1 ≤ min range.2 range'.2
  · simp only [if_pos meet, Option.some.injEq, exists_eq_left']
    omega
  · simp only [if_neg meet, reduceCtorEq, false_and, exists_false, false_iff]
    omega

/-- The codes in both sets. -/
@[simp] theorem contains_inter : (r.inter s).contains code = (r.contains code && s.contains code) := by
  rw [Bool.eq_iff_iff, inter, contains_ofList, Bool.and_eq_true, contains_iff, contains_iff]
  simp only [Spans, List.mem_flatMap, List.mem_filterMap]
  constructor
  · rintro ⟨common, ⟨range, mem, range', mem', meet⟩, inside⟩
    obtain ⟨here, there⟩ := spans_common.1 ⟨common, meet, inside⟩
    exact ⟨⟨range, mem, here⟩, range', mem', there⟩
  · rintro ⟨⟨range, mem, here⟩, range', mem', there⟩
    obtain ⟨common, meet, inside⟩ := spans_common.2 ⟨here, there⟩
    exact ⟨common, ⟨range, mem, range', mem', meet⟩, inside⟩

/-- The codes between ranges are those that are in none of them. -/
theorem spans_gaps (ascending : Ascending next ranges) (bound : code ≤ last) :
    Spans (gaps next last ranges) code ↔ next ≤ code ∧ ¬Spans ranges code := by
  induction ranges generalizing next with
  | nil =>
      by_cases left : next ≤ last
      · simp [gaps, left, bound]
      · simp only [gaps, if_neg left, spans_nil, not_false_eq_true, and_true, false_iff]
        omega
  | cons range rest ih =>
      obtain ⟨low, high⟩ := range
      obtain ⟨begin, filled, later⟩ := ascending
      have behind : Spans (gaps (high + 1) last rest) code ↔ high + 1 ≤ code ∧ ¬Spans rest code :=
        ih (later.mono (by omega))
      have after : Spans rest code → high + 2 ≤ code := later.le_of_spans
      rw [gaps, spans_cons]
      by_cases gap : next < low
      · rw [if_pos gap, spans_cons, behind]
        grind
      · rw [if_neg gap, behind]
        grind

/-- The codes up to `last` that are not in a set. -/
theorem contains_complement (bound : code ≤ last) :
    (r.complement last).contains code = !r.contains code := by
  have kept : Spans (ofList r.ranges).ranges code ↔ r.contains code = true := by
    rw [← contains_iff, contains_ofList, contains_iff]
  rw [Bool.eq_iff_iff, contains_iff, complement, spans_gaps (ascending_ofList _) bound, kept]
  simp

/-- The characters of the first set that are not in the second one. -/
theorem contains_diff (bound : code ≤ 0x10FFFF) :
    (r.diff s).contains code = (r.contains code && !s.contains code) := by
  rw [diff, contains_inter, contains_complement bound]

end Gatehouse.Unicode.Ranges

namespace Gatehouse.Pattern

open Unicode (Ranges)

/-- What an operation on sets says of a character. -/
def SetOp.holds : SetOp → Bool → Bool → Bool
  | .intersection, inFirst, inSecond => inFirst && inSecond
  | .difference, inFirst, inSecond => inFirst && !inSecond
  | .symmetric, inFirst, inSecond => inFirst != inSecond

/-- The characters of two sets with an operation between them. -/
theorem SetOp.contains_apply (op : SetOp) (a b : Ranges) {code last : Nat} (bound : code ≤ last) :
    (op.apply last a b).contains code = op.holds (a.contains code) (b.contains code) := by
  cases op with
  | intersection => exact Ranges.contains_inter
  | difference => rw [apply, Ranges.contains_inter, Ranges.contains_complement bound, holds]
  | symmetric =>
      rw [apply, Ranges.contains_inter, Ranges.contains_union, Ranges.contains_complement bound,
        Ranges.contains_inter, holds]
      cases a.contains code <;> cases b.contains code <;> rfl

end Gatehouse.Pattern
