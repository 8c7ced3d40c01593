import Gatehouse.Text.Decimal

/-!
# Decimal numbers - Round trip

The digits of a number are read as that number, and no zero stands in front of them.

Main results:

- Theorem `ofDigits_digits`: reading the digits of a number gives the number.
- Theorem `int?_natText`: the text of a number is read as the number.
- Theorem `head?_digits`: only the number zero begins with a zero.
-/

namespace Gatehouse.Decimal

/-- The character test here is the one of the standard library. -/
theorem isDigit_eq (c : Char) : isDigit c = c.isDigit := rfl

/-- The digits of a number are digits. -/
theorem isDigit_of_mem_digits {n : Nat} {c : Char} (h : c ∈ digits n) : isDigit c = true := by
  rw [isDigit_eq]
  exact Nat.isDigit_of_mem_toDigits (by omega) (by omega) h

/-- A number has at least one digit. -/
theorem digits_ne_nil (n : Nat) : digits n ≠ [] :=
  Nat.toDigits_ne_nil

/-- Reading the digits of a number gives the number. -/
theorem ofDigits_digits (n : Nat) : ofDigits (digits n) = n := by
  have standard : ofDigits (digits n) = Nat.ofDigitChars 10 (Nat.toDigits 10 n) 0 := by
    rw [ofDigits, Nat.ofDigitChars, digits]
    congr 1
    funext m c
    rw [Nat.mul_comm]
    rfl
  rw [standard, Nat.ofDigitChars_ten_toDigits]

/-- The digits of a number are read as the number. -/
theorem nat?_digits (n : Nat) : nat? (digits n) = some n := by
  have present : (digits n).isEmpty = false := by simpa using digits_ne_nil n
  have all : (digits n).all isDigit = true :=
    List.all_eq_true.2 fun _ mem => isDigit_of_mem_digits mem
  rw [nat?, present, all, ofDigits_digits]
  rfl

/-- The text of a number is read as the number, since it has no sign in front. -/
theorem int?_natText (n : Nat) : int? (natText n) = some (n : Int) := by
  have unsigned : ∀ c ∈ digits n, c ≠ '-' ∧ c ≠ '+' := by
    intro c mem
    have digit := isDigit_of_mem_digits mem
    constructor
    · rintro rfl
      cases digit
    · rintro rfl
      cases digit
  rw [int?, natText, String.toList_ofList]
  split
  next rest signed => exact absurd rfl (unsigned '-' (by simp [signed])).1
  next rest signed => exact absurd rfl (unsigned '+' (by simp [signed])).2
  next =>
    rw [nat?_digits]
    rfl

/-- Only the number zero begins with a zero. -/
theorem head?_digits {n : Nat} (h : 0 < n) : (digits n).head? ≠ some '0' := by
  induction n using Nat.strongRecOn with
  | ind n ih =>
      by_cases hn : n < 10
      · rw [digits, Nat.toDigits_of_lt_base hn]
        simp
        omega
      · have front := ih (n / 10) (by omega) (by omega)
        obtain ⟨d, ds, hd⟩ := List.exists_cons_of_ne_nil (digits_ne_nil (n / 10))
        rw [hd] at front
        rw [digits] at hd
        rw [digits, Nat.toDigits_of_base_le (by omega) (by omega), hd]
        simpa using front

end Gatehouse.Decimal
