import Gatehouse.Text.Blank

/-!
# Letter case - Comparing texts

Texts are compared up to the case of ASCII letters by their lower-case forms, so changing the case
of one of them first makes no difference.

Main results:

- Theorem `toNat_lowerChar`: which character a lower-case form is.
- Theorem `lowerChar_upperChar`: a character and its upper-case form have the same lower-case form.
- Theorem `eqIgnoreCase_upperAscii` and theorem `eqIgnoreCase_lowerAscii`: a text in upper or lower
  case compares as the text itself.
- Theorem `exists_of_eqIgnoreCase`: the characters of texts that compare equal.
-/

namespace Gatehouse.Text

/-- The number of an ASCII character. -/
theorem toNat_ofNat {n : Nat} (h : n < 128) : (Char.ofNat n).toNat = n := by
  rw [Char.ofNat, dif_pos (Or.inl (by omega))]
  rfl

/-- The number of a lower-case form. -/
theorem toNat_lowerChar (c : Char) : (lowerChar c).toNat =
    if 65 ≤ c.toNat ∧ c.toNat ≤ 90 then c.toNat + 32 else c.toNat := by
  have capital : ('A' ≤ c ∧ c ≤ 'Z') ↔ 65 ≤ c.toNat ∧ c.toNat ≤ 90 := Iff.rfl
  rw [lowerChar]
  simp only [capital]
  split
  · exact toNat_ofNat (by omega)
  · rfl

/-- A character and its upper-case form have the same lower-case form. -/
theorem lowerChar_upperChar (c : Char) : lowerChar (upperChar c) = lowerChar c := by
  unfold upperChar
  split
  · rename_i small
    have low : 97 ≤ c.toNat := small.1
    have high : c.toNat ≤ 122 := small.2
    have raised : (Char.ofNat (c.toNat - 32)).toNat = c.toNat - 32 := toNat_ofNat (by omega)
    have capital : 'A' ≤ Char.ofNat (c.toNat - 32) ∧ Char.ofNat (c.toNat - 32) ≤ 'Z' := by
      constructor
      · change 65 ≤ (Char.ofNat (c.toNat - 32)).toNat
        omega
      · change (Char.ofNat (c.toNat - 32)).toNat ≤ 90
        omega
    have plain : ¬('A' ≤ c ∧ c ≤ 'Z') := by
      rintro ⟨-, le⟩
      have : c.toNat ≤ 90 := le
      omega
    rw [lowerChar, if_pos capital, lowerChar, if_neg plain, raised]
    rw [Nat.sub_add_cancel (by omega), Char.ofNat_toNat]
  · rfl

/-- A text in upper case compares as the text itself. -/
theorem eqIgnoreCase_upperAscii (s t : String) :
    eqIgnoreCase (upperAscii s) t = eqIgnoreCase s t := by
  have same : (upperAscii s).toList.map lowerChar = s.toList.map lowerChar := by
    simp only [upperAscii, String.toList_ofList, List.map_map]
    exact List.map_congr_left fun c _ => lowerChar_upperChar c
  rw [eqIgnoreCase, same, eqIgnoreCase]

/-- A lower-case form is its own. -/
theorem lowerChar_lowerChar (c : Char) : lowerChar (lowerChar c) = lowerChar c := by
  refine Char.toNat_inj.1 ((toNat_lowerChar _).trans (if_neg ?_))
  rw [toNat_lowerChar]
  split <;> omega

/-- A text in lower case compares as the text itself. -/
theorem eqIgnoreCase_lowerAscii (s t : String) :
    eqIgnoreCase (lowerAscii s) t = eqIgnoreCase s t := by
  have same : (lowerAscii s).toList.map lowerChar = s.toList.map lowerChar := by
    simp only [lowerAscii, String.toList_ofList, List.map_map]
    exact List.map_congr_left fun c _ => lowerChar_lowerChar c
  rw [eqIgnoreCase, same, eqIgnoreCase]

/-- Only small letters are lower-case forms of other characters. -/
theorem eq_of_lowerChar_eq {c d : Char} (h : lowerChar c = d) (other : ¬('a' ≤ d ∧ d ≤ 'z')) :
    c = d := by
  have small : ¬(97 ≤ d.toNat ∧ d.toNat ≤ 122) := other
  have number := congrArg Char.toNat h
  rw [toNat_lowerChar] at number
  refine Char.toNat_inj.1 ?_
  split at number <;> omega

theorem eqIgnoreCase_comm (s t : String) : eqIgnoreCase s t = eqIgnoreCase t s :=
  Bool.beq_comm

/-- Every character of a text stands, in one case or the other, in a text that compares equal. -/
theorem exists_of_eqIgnoreCase {s t : String} (h : eqIgnoreCase s t = true) {c : Char}
    (mem : c ∈ s.toList) : ∃ d ∈ t.toList, lowerChar d = lowerChar c := by
  have lowered := List.mem_map_of_mem (f := lowerChar) mem
  rw [beq_iff_eq.1 h] at lowered
  exact List.mem_map.1 lowered

end Gatehouse.Text
