import Gatehouse.Encoding.Base64

/-!
# Base64 - Round trip

Reading what was written gives the bytes back, in both alphabets and for every number of bytes, and
nothing is read but what was written.

Main results:

- Theorem `decode?_encode`: an unpadded text is read as the bytes that it was written from.
- Theorem `decodeChars?_eq_some_iff` and theorem `decodePadded?_eq_some_iff`: bytes have one unpadded
  text and one padded text.
- Theorem `mem_encodeChars`: a written text has no other characters than letters of the alphabet.
- Theorem `value?_of_decode?`: neither has a text that can be read.
-/

namespace Gatehouse.Base64

variable {a : Alphabet} {bs : Bytes} {cs : List Char}

/-- An alphabet is faithful when each letter is read as the six bits that it is written for. -/
def Alphabet.Faithful (a : Alphabet) : Prop :=
  ∀ n < 64, a.value? (a.letter n) = some n

theorem faithful_urlSafe : urlSafe.Faithful := by
  unfold Alphabet.Faithful
  decide

theorem faithful_standard : standard.Faithful := by
  unfold Alphabet.Faithful
  decide

/-- Four letters at the front stand for three bytes. -/
theorem decodeChars?_cons (ha : a.Faithful) {n₁ n₂ n₃ n₄ : Nat} (h₁ : n₁ < 64) (h₂ : n₂ < 64)
    (h₃ : n₃ < 64) (h₄ : n₄ < 64) (rest : List Char) :
    decodeChars? a (a.letter n₁ :: a.letter n₂ :: a.letter n₃ :: a.letter n₄ :: rest) =
      (decodeChars? a rest).map fun bytes =>
        UInt8.ofNat (n₁ * 4 + n₂ / 16) :: UInt8.ofNat (n₂ % 16 * 16 + n₃ / 4) ::
          UInt8.ofNat (n₃ % 4 * 64 + n₄) :: bytes := by
  cases h : decodeChars? a rest with
  | none => simp [decodeChars?, ha n₁ h₁, ha n₂ h₂, ha n₃ h₃, ha n₄ h₄, h]
  | some bytes => simp [decodeChars?, ha n₁ h₁, ha n₂ h₂, ha n₃ h₃, ha n₄ h₄, h]

/-- The unused bits of the last letter are zero, so every written text can be read. -/
theorem decodeChars?_encodeChars (ha : a.Faithful) (bs : Bytes) :
    decodeChars? a (encodeChars a bs) = some bs := by
  induction bs using encodeChars.induct with
  | case1 => rfl
  | case2 x =>
      have hx := x.toNat_lt
      have e₁ := ha (x.toNat / 4) (by omega)
      have e₂ := ha (x.toNat % 4 * 16) (by omega)
      have unused : x.toNat % 4 * 16 % 16 = 0 := by omega
      have byte : x.toNat / 4 * 4 + x.toNat % 4 * 16 / 16 = x.toNat := by omega
      simp only [encodeChars, decodeChars?, e₁, e₂, unused, byte, Option.bind_eq_bind, Option.bind_some,
        if_true, UInt8.ofNat_toNat]
  | case3 x y =>
      have hx := x.toNat_lt
      have hy := y.toNat_lt
      have e₁ := ha (x.toNat / 4) (by omega)
      have e₂ := ha (x.toNat % 4 * 16 + y.toNat / 16) (by omega)
      have e₃ := ha (y.toNat % 16 * 4) (by omega)
      have unused : y.toNat % 16 * 4 % 4 = 0 := by omega
      have first : x.toNat / 4 * 4 + (x.toNat % 4 * 16 + y.toNat / 16) / 16 = x.toNat := by omega
      have second : (x.toNat % 4 * 16 + y.toNat / 16) % 16 * 16 + y.toNat % 16 * 4 / 4 =
          y.toNat := by omega
      simp only [encodeChars, decodeChars?, e₁, e₂, e₃, unused, first, second, Option.bind_eq_bind,
        Option.bind_some, if_true, UInt8.ofNat_toNat]
  | case4 x y z rest ih =>
      have hx := x.toNat_lt
      have hy := y.toNat_lt
      have hz := z.toNat_lt
      have first : x.toNat / 4 * 4 + (x.toNat % 4 * 16 + y.toNat / 16) / 16 = x.toNat := by omega
      have second : (x.toNat % 4 * 16 + y.toNat / 16) % 16 * 16 +
          (y.toNat % 16 * 4 + z.toNat / 64) / 4 = y.toNat := by omega
      have third : (y.toNat % 16 * 4 + z.toNat / 64) % 4 * 64 + z.toNat % 64 = z.toNat := by omega
      simp only [encodeChars]
      rw [decodeChars?_cons ha (by omega) (by omega) (by omega) (by omega), ih, first, second,
        third]
      simp

/-- An unpadded text is read as the bytes that it was written from. -/
theorem decode?_encode (ha : a.Faithful) (bs : Bytes) : decode? a (encode a bs) = some bs := by
  rw [decode?, encode, String.toList_ofList]
  exact decodeChars?_encodeChars ha bs

/-- A written text consists of letters of the alphabet. -/
theorem mem_encodeChars {c : Char} {bs : Bytes} (h : c ∈ encodeChars a bs) :
    ∃ n < 64, c = a.letter n := by
  induction bs using encodeChars.induct with
  | case1 => simp [encodeChars] at h
  | case2 x =>
      have hx := x.toNat_lt
      simp only [encodeChars, List.mem_cons, List.not_mem_nil, or_false] at h
      rcases h with h | h
      · exact ⟨_, by omega, h⟩
      · exact ⟨_, by omega, h⟩
  | case3 x y =>
      have hx := x.toNat_lt
      have hy := y.toNat_lt
      simp only [encodeChars, List.mem_cons, List.not_mem_nil, or_false] at h
      rcases h with h | h | h
      · exact ⟨_, by omega, h⟩
      · exact ⟨_, by omega, h⟩
      · exact ⟨_, by omega, h⟩
  | case4 x y z rest ih =>
      have hx := x.toNat_lt
      have hy := y.toNat_lt
      have hz := z.toNat_lt
      simp only [encodeChars, List.mem_cons] at h
      rcases h with h | h | h | h | h
      · exact ⟨_, by omega, h⟩
      · exact ⟨_, by omega, h⟩
      · exact ⟨_, by omega, h⟩
      · exact ⟨_, by omega, h⟩
      · exact ih h

/-- Letters that can be read are letters of the alphabet. -/
theorem value?_of_decodeChars? {cs : List Char} {bs : Bytes} (h : decodeChars? a cs = some bs) :
    ∀ c ∈ cs, (a.value? c).isSome = true := by
  induction cs using decodeChars?.induct generalizing bs with
  | case1 => exact fun _ hc => absurd hc List.not_mem_nil
  | case2 c => cases h
  | case3 c d =>
      obtain ⟨n, hn, h⟩ := Option.bind_eq_some_iff.1 h
      obtain ⟨k, hk, -⟩ := Option.bind_eq_some_iff.1 h
      simp [hn, hk]
  | case4 c d e =>
      obtain ⟨n, hn, h⟩ := Option.bind_eq_some_iff.1 h
      obtain ⟨k, hk, h⟩ := Option.bind_eq_some_iff.1 h
      obtain ⟨l, hl, -⟩ := Option.bind_eq_some_iff.1 h
      simp [hn, hk, hl]
  | case5 c d e f rest ih =>
      obtain ⟨n, hn, h⟩ := Option.bind_eq_some_iff.1 h
      obtain ⟨k, hk, h⟩ := Option.bind_eq_some_iff.1 h
      obtain ⟨l, hl, h⟩ := Option.bind_eq_some_iff.1 h
      obtain ⟨i, hi, h⟩ := Option.bind_eq_some_iff.1 h
      obtain ⟨bytes, read, -⟩ := Option.bind_eq_some_iff.1 h
      simpa [hn, hk, hl, hi] using ih read

/-- A text that can be read consists of letters of the alphabet. -/
theorem value?_of_decode? {s : String} {bs : Bytes} (h : decode? a s = some bs) :
    ∀ c ∈ s.toList, (a.value? c).isSome = true :=
  value?_of_decodeChars? h

/-! ## One written form -/

/-- A letter that can be read is the one that its six bits are written as. -/
theorem letter_of_value? {c : Char} {n : Nat} (h : a.value? c = some n) :
    n < 64 ∧ a.letter n = c := by
  have code {shift k : Nat} (below : shift ≤ c.toNat) (size : k = c.toNat - shift) :
      Char.ofNat (shift + k) = c := by
    rw [size, Nat.add_sub_cancel' below, Char.ofNat_toNat]
  unfold Alphabet.value? at h
  unfold Alphabet.letter
  split at h
  · rename_i upper
    have low : 65 ≤ c.toNat := upper.1
    have high : c.toNat ≤ 90 := upper.2
    cases h
    exact ⟨by omega, by rw [if_pos (by omega), code low rfl]⟩
  · split at h
    · rename_i lower
      have low : 97 ≤ c.toNat := lower.1
      have high : c.toNat ≤ 122 := lower.2
      cases h
      exact ⟨by omega, by rw [if_neg (by omega), if_pos (by omega), code (by omega) rfl]⟩
    · split at h
      · rename_i digit
        have low : 48 ≤ c.toNat := digit.1
        have high : c.toNat ≤ 57 := digit.2
        cases h
        refine ⟨by omega, ?_⟩
        rw [if_neg (by omega), if_neg (by omega), if_pos (by omega), Nat.add_sub_cancel,
          Char.ofNat_toNat]
      · split at h
        · rename_i same
          cases h
          exact ⟨by omega, same.symm⟩
        · split at h
          · rename_i same
            cases h
            exact ⟨by omega, same.symm⟩
          · cases h

theorem toNat_byte {n : Nat} (h : n < 256) : (UInt8.ofNat n).toNat = n :=
  UInt8.toNat_ofNat_of_lt h

/-- Letters that can be read are those that their bytes are written as: the unused bits are zero. -/
theorem encodeChars_of_decodeChars? (h : decodeChars? a cs = some bs) : encodeChars a bs = cs := by
  induction cs using decodeChars?.induct generalizing bs with
  | case1 =>
      cases h
      rfl
  | case2 c => cases h
  | case3 c d =>
      obtain ⟨n₁, h₁, h⟩ := Option.bind_eq_some_iff.1 h
      obtain ⟨n₂, h₂, h⟩ := Option.bind_eq_some_iff.1 h
      obtain ⟨unused, h⟩ := Option.ite_none_right_eq_some.1 h
      cases h
      obtain ⟨s₁, e₁⟩ := letter_of_value? h₁
      obtain ⟨s₂, e₂⟩ := letter_of_value? h₂
      have byte : (UInt8.ofNat (n₁ * 4 + n₂ / 16)).toNat = n₁ * 4 + n₂ / 16 :=
        toNat_byte (by omega)
      have first : (n₁ * 4 + n₂ / 16) / 4 = n₁ := by omega
      have second : (n₁ * 4 + n₂ / 16) % 4 * 16 = n₂ := by omega
      simp only [encodeChars, byte, first, second, e₁, e₂]
  | case4 c d e =>
      obtain ⟨n₁, h₁, h⟩ := Option.bind_eq_some_iff.1 h
      obtain ⟨n₂, h₂, h⟩ := Option.bind_eq_some_iff.1 h
      obtain ⟨n₃, h₃, h⟩ := Option.bind_eq_some_iff.1 h
      obtain ⟨unused, h⟩ := Option.ite_none_right_eq_some.1 h
      cases h
      obtain ⟨s₁, e₁⟩ := letter_of_value? h₁
      obtain ⟨s₂, e₂⟩ := letter_of_value? h₂
      obtain ⟨s₃, e₃⟩ := letter_of_value? h₃
      have b₁ : (UInt8.ofNat (n₁ * 4 + n₂ / 16)).toNat = n₁ * 4 + n₂ / 16 :=
        toNat_byte (by omega)
      have b₂ : (UInt8.ofNat (n₂ % 16 * 16 + n₃ / 4)).toNat = n₂ % 16 * 16 + n₃ / 4 :=
        toNat_byte (by omega)
      have first : (n₁ * 4 + n₂ / 16) / 4 = n₁ := by omega
      have second : (n₁ * 4 + n₂ / 16) % 4 * 16 + (n₂ % 16 * 16 + n₃ / 4) / 16 = n₂ := by omega
      have third : (n₂ % 16 * 16 + n₃ / 4) % 16 * 4 = n₃ := by omega
      simp only [encodeChars, b₁, b₂, first, second, third, e₁, e₂, e₃]
  | case5 c d e f rest ih =>
      obtain ⟨n₁, h₁, h⟩ := Option.bind_eq_some_iff.1 h
      obtain ⟨n₂, h₂, h⟩ := Option.bind_eq_some_iff.1 h
      obtain ⟨n₃, h₃, h⟩ := Option.bind_eq_some_iff.1 h
      obtain ⟨n₄, h₄, h⟩ := Option.bind_eq_some_iff.1 h
      obtain ⟨bytes, read, h⟩ := Option.bind_eq_some_iff.1 h
      cases h
      obtain ⟨s₁, e₁⟩ := letter_of_value? h₁
      obtain ⟨s₂, e₂⟩ := letter_of_value? h₂
      obtain ⟨s₃, e₃⟩ := letter_of_value? h₃
      obtain ⟨s₄, e₄⟩ := letter_of_value? h₄
      have b₁ : (UInt8.ofNat (n₁ * 4 + n₂ / 16)).toNat = n₁ * 4 + n₂ / 16 :=
        toNat_byte (by omega)
      have b₂ : (UInt8.ofNat (n₂ % 16 * 16 + n₃ / 4)).toNat = n₂ % 16 * 16 + n₃ / 4 :=
        toNat_byte (by omega)
      have b₃ : (UInt8.ofNat (n₃ % 4 * 64 + n₄)).toNat = n₃ % 4 * 64 + n₄ :=
        toNat_byte (by omega)
      have first : (n₁ * 4 + n₂ / 16) / 4 = n₁ := by omega
      have second : (n₁ * 4 + n₂ / 16) % 4 * 16 + (n₂ % 16 * 16 + n₃ / 4) / 16 = n₂ := by omega
      have third : (n₂ % 16 * 16 + n₃ / 4) % 16 * 4 + (n₃ % 4 * 64 + n₄) / 64 = n₃ := by omega
      have fourth : (n₃ % 4 * 64 + n₄) % 64 = n₄ := by omega
      simp only [encodeChars, b₁, b₂, b₃, first, second, third, fourth, e₁, e₂, e₃, e₄, ih read]

theorem decodeChars?_eq_some_iff (ha : a.Faithful) :
    decodeChars? a cs = some bs ↔ cs = encodeChars a bs := by
  constructor
  · exact fun read => (encodeChars_of_decodeChars? read).symm
  · rintro rfl
    exact decodeChars?_encodeChars ha bs

/-! ## Padding -/

/-- The padding mark is no letter. -/
def Alphabet.Unmarked (a : Alphabet) : Prop :=
  ∀ n < 64, a.letter n ≠ '='

theorem unmarked_urlSafe : urlSafe.Unmarked := by
  unfold Alphabet.Unmarked
  decide

theorem mark_notMem_encodeChars (ha : a.Unmarked) (bs : Bytes) : '=' ∉ encodeChars a bs := by
  intro mem
  obtain ⟨n, small, same⟩ := mem_encodeChars mem
  exact ha n small same.symm

/-- A text is read with its padding when it is the padded text of the bytes. -/
theorem decodePadded?_eq_some_iff (ha : a.Faithful) (hm : a.Unmarked) {s : String} :
    decodePadded? a s = some bs ↔ s = encodePadded a bs := by
  simp only [decodePadded?, encodePadded, Option.ite_none_right_eq_some, decodeChars?_eq_some_iff ha]
  constructor
  · rintro ⟨marks, letters⟩
    have whole := List.prefix_iff_eq_append.1 (List.takeWhile_prefix (l := s.toList) (· ≠ '='))
    rw [marks, letters] at whole
    rw [whole, String.ofList_toList]
  · rintro rfl
    have letters : (encodeChars a bs ++
        List.replicate (padding (encodeChars a bs).length) '=').takeWhile (· ≠ '=') =
          encodeChars a bs := by
      rw [List.takeWhile_append_of_pos]
      · simp
      · intro c mem
        have letter : c ≠ '=' := fun same => mark_notMem_encodeChars hm bs (same ▸ mem)
        simpa using letter
    rw [String.toList_ofList, letters]
    simp

end Gatehouse.Base64
