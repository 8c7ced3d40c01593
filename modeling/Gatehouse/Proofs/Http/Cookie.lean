import Gatehouse.Http.Cookie
import Gatehouse.Proofs.Http.Header
import Gatehouse.Proofs.Text.Decimal
import Gatehouse.Proofs.Text.Split

/-!
# Cookies - Set and sent back

A cookie whose parts are plain text can be set, and a browser that sends it back alone lets the
service find its value.

Main definitions: `IsPlain` and `IsPairText`: texts that may stand in a header and in a pair.

Main results:

- Theorem `utf8_of_isPlain` and theorem `readable?_utf8`: plain text in a header.
- Theorem `Cookie.header?_of_isPlain`: a cookie of plain parts can be set.
- Theorem `Cookie.find?_of_pair`: a cookie that is sent back is found.
- Theorem `Cookie.find?_append_of_ne` and theorem `bearer?_append_of_ne`: lines of other names carry
  no credential.
-/

namespace Gatehouse.Http

/-! ## Plain text -/

/-- The text consists of visible ASCII characters and spaces. -/
def IsPlain (s : String) : Prop :=
  ∀ c ∈ s.toList, 32 ≤ c.toNat ∧ c.toNat < 127

instance (s : String) : Decidable (IsPlain s) :=
  List.decidableBAll _ _

variable {s t : String}

theorem IsPlain.append (hs : IsPlain s) (ht : IsPlain t) : IsPlain (s ++ t) := by
  intro c hc
  rw [String.toList_append, List.mem_append] at hc
  exact hc.elim (hs c) (ht c)

/-- A character of plain text is a single byte. -/
theorem utf8EncodeChar_of_lt {c : Char} (h : c.toNat < 127) :
    String.utf8EncodeChar c = [UInt8.ofNat c.toNat] := by
  have small : c.val ≤ 127 := UInt32.le_iff_toNat_le.2 (Nat.le_of_lt h)
  have size : c.utf8Size = 1 := by
    unfold Char.utf8Size
    exact if_pos small
  rw [String.utf8EncodeChar_eq_singleton size]
  rfl

/-- The UTF-8 form of a text is that of its characters. -/
theorem utf8_eq_flatMap (s : String) : utf8 s = s.toList.flatMap String.utf8EncodeChar := by
  show s.toByteArray.data.toList = _
  rw [← String.ofList_toList (s := s), String.toByteArray_ofList, List.utf8Encode]
  simp

/-- Plain text has one byte for each character. -/
theorem utf8_of_isPlain (h : IsPlain s) :
    utf8 s = s.toList.map fun c => UInt8.ofNat c.toNat := by
  have bytes : ∀ cs : List Char, (∀ c ∈ cs, c.toNat < 127) →
      cs.flatMap String.utf8EncodeChar = cs.map fun c => UInt8.ofNat c.toNat := by
    intro cs hcs
    induction cs with
    | nil => rfl
    | cons c rest ih =>
        rw [List.flatMap_cons, utf8EncodeChar_of_lt (hcs c List.mem_cons_self),
          ih fun d hd => hcs d (List.mem_cons_of_mem c hd)]
        rfl
  rw [utf8_eq_flatMap, bytes _ fun c hc => (h c hc).2]

/-- The bytes of plain text may stand in a header and can be read. -/
theorem plainByte : ∀ n < 127, 32 ≤ n → isValueByte (UInt8.ofNat n) = true ∧
    isReadableByte (UInt8.ofNat n) = true ∧ (UInt8.ofNat n).toNat = n := by
  decide

/-- The text may stand in a header. -/
def IsFieldText (s : String) : Prop :=
  (utf8 s).all isValueByte = true

instance (s : String) : Decidable (IsFieldText s) :=
  instDecidableEqBool _ _

/-- A text may stand in a header when both its parts may. -/
theorem isFieldText_append : IsFieldText (s ++ t) ↔ IsFieldText s ∧ IsFieldText t := by
  have bytes : utf8 (s ++ t) = utf8 s ++ utf8 t := by
    show (s ++ t).toByteArray.data.toList = s.toByteArray.data.toList ++ t.toByteArray.data.toList
    rw [String.toByteArray_append, ByteArray.data_append, Array.toList_append]
  unfold IsFieldText
  rw [bytes, List.all_append, Bool.and_eq_true]

theorem IsFieldText.append (hs : IsFieldText s) (ht : IsFieldText t) : IsFieldText (s ++ t) :=
  isFieldText_append.2 ⟨hs, ht⟩

theorem fieldValue?_of_isFieldText (h : IsFieldText s) : fieldValue? (utf8 s) = some (utf8 s) := by
  unfold IsFieldText at h
  rw [fieldValue?, if_pos h]

/-- Plain text may stand in a header. -/
theorem IsPlain.isFieldText (h : IsPlain s) : IsFieldText s := by
  rw [IsFieldText, utf8_of_isPlain h, List.all_map, List.all_eq_true]
  exact fun c hc => (plainByte c.toNat (h c hc).2 (h c hc).1).1

/-- Plain text in a header can be read. -/
theorem readable?_utf8 (h : IsPlain s) : readable? (utf8 s) = some s := by
  have all : (utf8 s).all isReadableByte = true := by
    rw [utf8_of_isPlain h, List.all_map, List.all_eq_true]
    exact fun c hc => (plainByte c.toNat (h c hc).2 (h c hc).1).2.1
  have chars : (utf8 s).map (fun b => Char.ofNat b.toNat) = s.toList := by
    rw [utf8_of_isPlain h, List.map_map]
    refine (List.map_congr_left fun c hc => ?_).trans (List.map_id _)
    show Char.ofNat (UInt8.ofNat c.toNat).toNat = c
    rw [(plainByte c.toNat (h c hc).2 (h c hc).1).2.2, Char.ofNat_toNat]
  rw [readable?, if_pos all, chars, String.ofList_toList]

/-! ## Cookies -/

/-- The text may be the name or the value in a pair: visible ASCII characters other than the
semicolon and the equals sign. -/
def IsPairText (s : String) : Prop :=
  ∀ c ∈ s.toList, 32 < c.toNat ∧ c.toNat < 127 ∧ c ≠ ';' ∧ c ≠ '='

instance (s : String) : Decidable (IsPairText s) :=
  List.decidableBAll _ _

theorem IsPairText.append (hs : IsPairText s) (ht : IsPairText t) : IsPairText (s ++ t) := by
  intro c hc
  rw [String.toList_append, List.mem_append] at hc
  exact hc.elim (hs c) (ht c)

theorem IsPairText.isPlain (h : IsPairText s) : IsPlain s :=
  fun c hc => ⟨Nat.le_of_lt (h c hc).1, (h c hc).2.1⟩

/-- The digits of a number may stand in a pair. -/
theorem isPairText_natText (n : Nat) : IsPairText (Decimal.natText n) := by
  intro c hc
  rw [Decimal.natText, String.toList_ofList] at hc
  have digit := Decimal.isDigit_of_mem_digits hc
  rw [Decimal.isDigit, Bool.and_eq_true, decide_eq_true_eq, decide_eq_true_eq] at digit
  have low : 48 ≤ c.toNat := digit.1
  have high : c.toNat ≤ 57 := digit.2
  refine ⟨by omega, by omega, ?_, ?_⟩
  · rintro rfl
    exact absurd high (by decide)
  · rintro rfl
    exact absurd high (by decide)

/-- Text in a pair has no blanks. -/
theorem IsPairText.isBlank (h : IsPairText s) {c : Char} (hc : c ∈ s.toList) :
    Text.isBlank c = false := by
  have visible : ∀ n < 127, 32 < n → Text.isBlank (Char.ofNat n) = false := by decide
  have blank := visible c.toNat (h c hc).2.1 (h c hc).1
  rwa [Char.ofNat_toNat] at blank

namespace Cookie

/-- A cookie can be set when its parts may stand in a header. -/
theorem header?_of_isFieldText {c : Cookie} (name : IsFieldText c.name)
    (value : IsFieldText c.value) (path : IsFieldText c.scope.path)
    (domain : ∀ d, c.scope.domain = some d → IsFieldText d) : c.header? = some (utf8 c.text) := by
  have text : IsFieldText c.text := by
    unfold text
    refine ((((((((name.append (by decide)).append value).append (by decide)).append path).append
      ?_).append (by decide)).append (isPairText_natText _).isPlain.isFieldText).append
      (by decide)).append ?_
    · cases h : c.scope.domain with
      | none => decide
      | some d => exact IsFieldText.append (by decide) (domain d h)
    · cases c.scope.secure <;> decide
  exact fieldValue?_of_isFieldText text

/-- A cookie cannot be set when one of its parts may not stand in a header. -/
theorem header?_eq_none {c : Cookie} (h : ¬(IsFieldText c.name ∧ IsFieldText c.scope.path ∧
    ∀ d, c.scope.domain = some d → IsFieldText d)) : c.header? = none := by
  rw [header?, fieldValue?]
  refine if_neg fun standing => h ?_
  have standing : IsFieldText c.text := standing
  unfold text at standing
  simp only [isFieldText_append] at standing
  obtain ⟨⟨⟨⟨⟨⟨⟨⟨⟨name, -⟩, -⟩, -⟩, path⟩, domain⟩, -⟩, -⟩, -⟩, -⟩ := standing
  refine ⟨name, path, fun d given => ?_⟩
  rw [given] at domain
  exact (isFieldText_append.1 domain).2

/-- A cookie of plain parts can be set. -/
theorem header?_of_isPlain {c : Cookie} (name : IsPlain c.name) (value : IsPlain c.value)
    (path : IsPlain c.scope.path) (domain : ∀ d, c.scope.domain = some d → IsPlain d) :
    c.header? = some (utf8 c.text) :=
  header?_of_isFieldText name.isFieldText value.isFieldText path.isFieldText fun d given =>
    (domain d given).isFieldText

/-- A pair has no blanks. -/
theorem trim_pair {name value : String} (hname : IsPairText name) (hvalue : IsPairText value) :
    Text.trim (name ++ "=" ++ value) = name ++ "=" ++ value := by
  refine Text.trim_of_notBlank fun c hc => ?_
  simp only [String.toList_append, List.mem_append] at hc
  rcases hc with (hc | hc) | hc
  · exact hname.isBlank hc
  · obtain rfl : c = '=' := by simpa using hc
    decide
  · exact hvalue.isBlank hc

/-- A pair has no semicolons. -/
theorem semicolon_notMem_pair {name value : String} (hname : IsPairText name)
    (hvalue : IsPairText value) : ';' ∉ (name ++ "=" ++ value).toList := by
  intro h
  simp only [String.toList_append, List.mem_append] at h
  rcases h with (h | h) | h
  · exact (hname _ h).2.2.1 rfl
  · revert h
    decide
  · exact (hvalue _ h).2.2.1 rfl

/-- A cookie that is sent back alone is found. -/
theorem find?_of_pair {name value : String} (hname : IsPairText name) (hvalue : IsPairText value)
    (given : value ≠ "") :
    find? ⟨[("cookie", utf8 (name ++ "=" ++ value))]⟩ name = some value := by
  have plain : IsPlain (name ++ "=" ++ value) :=
    (hname.isPlain.append (by decide)).append hvalue.isPlain
  have single : Text.splitOn ';' (name ++ "=" ++ value) = [name ++ "=" ++ value] :=
    Text.splitOn_of_notMem (semicolon_notMem_pair hname hvalue)
  have pair : pair? (name ++ "=" ++ value) = some (name, value) := by
    have cut : Text.cut? '=' (name ++ "=" ++ value) = some (name, value) :=
      Text.cut?_append (fun h => (hname _ h).2.2.2 rfl) value
    rw [pair?, trim_pair hname hvalue, cut, Option.map_some]
    simp only
    rw [Text.trim_of_notBlank fun c hc => hname.isBlank hc,
      Text.trim_of_notBlank fun c hc => hvalue.isBlank hc]
  have nonempty : value.isEmpty = false := by simpa using given
  have all : pairs ⟨[("cookie", utf8 (name ++ "=" ++ value))]⟩ = [(name, value)] := by
    simp [pairs, Headers.values, readable?_utf8 plain, single, pair]
  rw [find?, all]
  simp [nonempty]

/-- A line of another name carries no cookies. -/
theorem find?_append_of_ne {line : String} (other : "cookie" ≠ line) (h : Headers)
    (value : Bytes) (name : String) : find? (h.append line value) name = find? h name := by
  unfold find? pairs
  rw [Headers.values_append_of_ne other]

end Cookie

/-- A line of another name carries no bearer token. -/
theorem bearer?_append_of_ne {line : String} (other : "authorization" ≠ line) (h : Headers)
    (value : Bytes) : bearer? (h.append line value) = bearer? h := by
  unfold bearer?
  rw [Headers.first?_append_of_ne other]

end Gatehouse.Http
