import Gatehouse.Text.Blank
import Gatehouse.Text.Split
import Mathlib.Data.List.Infix

/-!
# Cutting texts at a part - Parts at the front, at the end and inside

A text is cut at the first place where a part stands in it.

Main results:

- Theorem `cutAt?_eq_some_iff`: a text is cut in front of the first occurrence of a part.
- Theorem `cutAt?_isSome_iff`: a text can be cut when the part stands in it.
- Theorem `startsWith_iff` and theorem `endsWith_iff`: parts at the front and at the end of a text.
-/

namespace Gatehouse.Text

variable {part cs before after : List Char}

/-! ## Parts inside -/

/-- The part stands in the text, and no nearer to its front. -/
structure FirstAt (part cs before after : List Char) : Prop where
  cut : cs = before ++ part ++ after
  first : ∀ front back, cs = front ++ part ++ back → before.length ≤ front.length

/-- A part that stands in a text for the first time does so once. -/
theorem FirstAt.unique {before' after' : List Char} (h : FirstAt part cs before after)
    (h' : FirstAt part cs before' after') : before = before' ∧ after = after' := by
  have same : before.length = before'.length :=
    Nat.le_antisymm (h.first _ _ h'.cut) (h'.first _ _ h.cut)
  have joined := h.cut.symm.trans h'.cut
  rw [List.append_assoc, List.append_assoc] at joined
  obtain ⟨front, rest⟩ := List.append_inj joined same
  exact ⟨front, List.append_cancel_left rest⟩

/-- A text is cut where the part stands in it for the first time. -/
theorem firstAt_of_cutAt? (h : cutAt? part cs = some (before, after)) :
    FirstAt part cs before after := by
  induction cs generalizing before with
  | nil =>
      obtain ⟨empty, same⟩ := Option.ite_none_right_eq_some.1 h
      cases same
      exact ⟨by simpa using empty, fun _ _ _ => Nat.zero_le _⟩
  | cons c cs ih =>
      rw [cutAt?] at h
      split at h
      · rename_i here
        cases h
        obtain ⟨rest, joined⟩ := List.isPrefixOf_iff_prefix.1 here
        exact ⟨by simp [← joined], fun _ _ _ => Nat.zero_le _⟩
      · rename_i elsewhere
        obtain ⟨⟨front, back⟩, found, same⟩ := Option.map_eq_some_iff.1 h
        cases same
        have later := ih found
        refine ⟨by rw [later.cut]; rfl, ?_⟩
        intro front' back' joined
        cases front' with
        | nil =>
            -- the part would stand at the very front
            have here : part.isPrefixOf (c :: cs) = true :=
              List.isPrefixOf_iff_prefix.2 ⟨back', by simpa using joined.symm⟩
            cases elsewhere.symm.trans here
        | cons c' front' =>
            have inside : cs = front' ++ part ++ back' := by simpa using (List.cons.inj joined).2
            exact Nat.succ_le_succ (later.first front' back' inside)

/-- A text can be cut when the part stands in it. -/
theorem cutAt?_isSome_iff :
    (cutAt? part cs).isSome = true ↔ ∃ before after, cs = before ++ part ++ after := by
  constructor
  · intro found
    obtain ⟨⟨before, after⟩, cut⟩ := Option.isSome_iff_exists.1 found
    exact ⟨before, after, (firstAt_of_cutAt? cut).cut⟩
  · rintro ⟨before, after, rfl⟩
    induction before with
    | nil =>
        cases part with
        | nil => cases after <;> simp [cutAt?]
        | cons c part =>
            have here : (c :: part).isPrefixOf (c :: (part ++ after)) = true :=
              List.isPrefixOf_iff_prefix.2 ⟨after, rfl⟩
            simp [cutAt?, here]
    | cons c before ih =>
        rw [List.cons_append, List.cons_append, cutAt?]
        split
        · rfl
        · rwa [Option.isSome_map]

theorem cutAt?_eq_some_iff :
    cutAt? part cs = some (before, after) ↔ FirstAt part cs before after := by
  constructor
  · exact firstAt_of_cutAt?
  · intro first
    obtain ⟨⟨before', after'⟩, cut⟩ :=
      Option.isSome_iff_exists.1 (cutAt?_isSome_iff.2 ⟨before, after, first.cut⟩)
    obtain ⟨rfl, rfl⟩ := first.unique (firstAt_of_cutAt? cut)
    exact cut

/-! ## Parts at the ends -/

theorem startsWith_iff {lead s : String} : startsWith lead s = true ↔ ∃ rest, s = lead ++ rest := by
  rw [startsWith, List.isPrefixOf_iff_prefix]
  constructor
  · rintro ⟨rest, joined⟩
    exact ⟨String.ofList rest, String.toList_inj.1 (by simp [← joined])⟩
  · rintro ⟨rest, rfl⟩
    exact ⟨rest.toList, by simp⟩

theorem endsWith_iff {tail s : String} : endsWith tail s = true ↔ ∃ front, s = front ++ tail := by
  rw [endsWith, List.isSuffixOf_iff_suffix]
  constructor
  · rintro ⟨front, joined⟩
    exact ⟨String.ofList front, String.toList_inj.1 (by simp [← joined])⟩
  · rintro ⟨front, rfl⟩
    exact ⟨front.toList, by simp⟩

end Gatehouse.Text
