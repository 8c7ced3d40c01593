import Gatehouse.Proofs.Http.Cookie
import Gatehouse.Proofs.Text.Decimal
import Gatehouse.Proofs.Text.LetterCase
import Gatehouse.Url.Host
import Gatehouse.Url.Path

/-!
# Hosts - How they are written

The text of a host that is a name or an address of version 4 has none of the characters that part the
pieces of a web address from each other; that of an address of version 6 always has a colon.

Main definitions:

- `IsNameChar`: a character that parts nothing in a web address.
- `Host.read?`: how a host is read after schemes of a kind.

Main results:

- Theorem `Host.text_of_read?`: the characters of the texts of hosts.
-/

namespace Gatehouse

/-- A byte of ASCII is the whole UTF-8 form of a character. -/
theorem eq_of_mem_utf8EncodeChar {c : Char} {b : UInt8} (h : b ∈ String.utf8EncodeChar c)
    (ascii : b.toNat < 128) : Char.ofNat b.toNat = c := by
  have high (n : Nat) (first : 128 ≤ n) (last : n < 256) : b ≠ UInt8.ofNat n := by
    rintro rfl
    rw [UInt8.toNat_ofNat_of_lt' last] at ascii
    omega
  dsimp only [String.utf8EncodeChar] at h
  by_cases one : c.val.toNat ≤ 127
  · rw [if_pos one, List.mem_singleton] at h
    rw [h, UInt8.toNat_ofNat_of_lt' (Nat.lt_of_le_of_lt one (by decide))]
    exact Char.ofNat_toNat c
  · rw [if_neg one] at h
    split at h
    · simp only [List.mem_cons, List.not_mem_nil, or_false] at h
      rcases h with rfl | rfl <;> exact absurd rfl (high _ (by omega) (by omega))
    · split at h
      · simp only [List.mem_cons, List.not_mem_nil, or_false] at h
        rcases h with rfl | rfl | rfl <;> exact absurd rfl (high _ (by omega) (by omega))
      · simp only [List.mem_cons, List.not_mem_nil, or_false] at h
        rcases h with rfl | rfl | rfl | rfl <;> exact absurd rfl (high _ (by omega) (by omega))

/-- A byte of ASCII in the UTF-8 form of some characters is one of them. -/
theorem mem_of_mem_utf8 {cs : List Char} {b : UInt8} (h : b ∈ utf8 (String.ofList cs))
    (ascii : b.toNat < 128) : Char.ofNat b.toNat ∈ cs := by
  rw [Http.utf8_eq_flatMap, String.toList_ofList] at h
  obtain ⟨c, mem, encoded⟩ := List.mem_flatMap.1 h
  rwa [eq_of_mem_utf8EncodeChar encoded ascii]

/-- The characters of a joined text come from its parts and from the separators. -/
theorem Text.mem_joinWith {sep : String} {parts : List String} {c : Char}
    (h : c ∈ (Text.joinWith sep parts).toList) :
    c ∈ sep.toList ∨ ∃ part ∈ parts, c ∈ part.toList := by
  induction parts with
  | nil => cases h
  | cons part rest ih =>
      cases rest with
      | nil => exact .inr ⟨part, by simp, h⟩
      | cons next rest =>
          rw [Text.joinWith_cons (List.cons_ne_nil next rest)] at h
          simp only [String.toList_append, List.mem_append] at h
          rcases h with (own | between) | later
          · exact .inr ⟨part, by simp, own⟩
          · exact .inl between
          · rcases ih later with between | ⟨other, mem, inside⟩
            · exact .inl between
            · exact .inr ⟨other, List.mem_cons_of_mem _ mem, inside⟩

namespace Url

variable {text : String} {host : Host} {kind : SchemeKind}

/-! ## Characters -/

/-- The character is visible and parts nothing in a web address. -/
def IsNameChar (c : Char) : Prop :=
  0x20 < c.toNat ∧ c ∉ "/:?#@[]\\".toList

instance (c : Char) : Decidable (IsNameChar c) :=
  instDecidableAnd

/-- Digits part nothing. -/
theorem isNameChar_of_isDigit {c : Char} (h : Decimal.isDigit c = true) : IsNameChar c := by
  have all : ∀ n < 58, 48 ≤ n → IsNameChar (Char.ofNat n) := by decide
  rw [Decimal.isDigit, Bool.and_eq_true, decide_eq_true_eq, decide_eq_true_eq] at h
  have low : 48 ≤ c.toNat := h.1
  have high : c.toNat ≤ 57 := h.2
  have digit := all c.toNat (by omega) low
  rwa [Char.ofNat_toNat] at digit

/-- Letters part nothing. -/
theorem isNameChar_of_letter {c : Char} (h : 'A' ≤ c ∧ c ≤ 'Z' ∨ 'a' ≤ c ∧ c ≤ 'z') :
    IsNameChar c := by
  have capital : ∀ n < 91, 65 ≤ n → IsNameChar (Char.ofNat n) := by decide
  have small : ∀ n < 123, 97 ≤ n → IsNameChar (Char.ofNat n) := by decide
  rw [← Char.ofNat_toNat c]
  rcases h with ⟨low, high⟩ | ⟨low, high⟩
  · exact capital c.toNat (Nat.lt_succ_of_le high) low
  · exact small c.toNat (Nat.lt_succ_of_le high) low

/-- A character with the lower-case form of one that parts nothing does not either. -/
theorem IsNameChar.of_lowerChar {c d : Char} (h : IsNameChar d)
    (same : Text.lowerChar d = Text.lowerChar c) : IsNameChar c := by
  by_cases letter : 'A' ≤ c ∧ c ≤ 'Z' ∨ 'a' ≤ c ∧ c ≤ 'z'
  · exact isNameChar_of_letter letter
  · rw [not_or] at letter
    have own : Text.lowerChar c = c := if_neg letter.1
    rwa [← Text.eq_of_lowerChar_eq (same.trans own) letter.2]

/-- An address of version 4 is written with digits and dots. -/
theorem isNameChar_dotted (n : Nat) : ∀ c ∈ (Net.dotted n).toList, IsNameChar c := by
  intro c mem
  rcases Text.mem_joinWith mem with dot | ⟨part, written, inside⟩
  · obtain rfl : c = '.' := by simpa using dot
    decide
  · obtain ⟨byte, -, rfl⟩ := List.mem_map.1 written
    rw [Decimal.natText, String.toList_ofList] at inside
    exact isNameChar_of_isDigit (Decimal.isDigit_of_mem_digits inside)

theorem dotted_ne_empty (n : Nat) : Net.dotted n ≠ "" := by
  intro empty
  have chars := congrArg String.toList empty
  simp [Net.dotted, Text.joinWith] at chars

/-- Characters that are not forbidden may stand in the name of a host. -/
theorem isNameChar_of_not_forbidden {c : Char} (h : Idna.isForbidden c.toNat = false) :
    IsNameChar c := by
  have special : ∀ c ∈ "/:?#@[]\\".toList, Idna.isForbidden c.toNat = true :=
    List.all_eq_true.1 rfl
  constructor
  · refine Nat.lt_of_not_le fun blank => ?_
    simp [Idna.isForbidden, blank] at h
  · intro mem
    rw [special c mem] at h
    cases h

/-- The ASCII form of a name has only characters that may stand in it. -/
theorem isNameChar_of_asciiName? {name ascii : String} (h : Idna.asciiName? name = some ascii) :
    ∀ c ∈ ascii.toList, IsNameChar c := by
  rw [Idna.asciiName?] at h
  simp only [Option.bind_eq_bind, Option.bind_eq_some_iff] at h
  obtain ⟨codes, -, labels, -, h⟩ := h
  obtain ⟨good, same⟩ := Option.ite_none_right_eq_some.1 h
  cases same
  intro c mem
  have allowed := List.all_eq_true.1 (Bool.and_eq_true_iff.1 good).2 c mem
  exact isNameChar_of_not_forbidden (by simpa using allowed)

/-- What is escaped in the name of a host that is taken as it is may stand in it. -/
theorem isNameChar_encode {cs : List Char} (plain : ∀ c ∈ cs, isForbiddenOpaque c = false) :
    ∀ c ∈ Percent.encode (fun _ => false) cs, IsNameChar c := by
  have digit : ∀ n < 16, IsNameChar (Hex.digit n).toUpper := by decide
  have special : ∀ c ∈ ' ' :: "/:?#@[]\\".toList, isForbiddenOpaque c = true :=
    List.all_eq_true.1 rfl
  intro c mem
  obtain ⟨b, byte, written⟩ := List.mem_flatMap.1 mem
  simp only at written
  split at written
  · have high := digit (b.toNat / 16) (by have := b.toNat_lt; omega)
    have low := digit (b.toNat % 16) (Nat.mod_lt _ (by decide))
    simp only [Percent.escape, List.mem_cons, List.not_mem_nil, or_false] at written
    rcases written with rfl | rfl | rfl
    · decide
    · exact high
    · exact low
  · rename_i bare
    rw [List.mem_singleton] at written
    simp only [Bool.or_false, Bool.or_eq_true, decide_eq_true_eq, not_or] at bare
    obtain ⟨visible, ascii⟩ := bare
    have low : 0x20 ≤ b.toNat := Nat.not_lt.1 visible
    have high : b.toNat < 0x7F := Nat.not_le.1 ascii
    have own : c ∈ cs := written ▸ mem_of_mem_utf8 byte (by omega)
    have number : c.toNat = b.toNat := by rw [written, Text.toNat_ofNat (by omega)]
    have allowed := plain c own
    refine ⟨?_, fun parting => ?_⟩
    · refine Nat.lt_of_le_of_ne (number ▸ low) fun space => ?_
      have blank : c = ' ' := by rw [← Char.ofNat_toNat c, ← space]
      rw [special c (by simp [blank])] at allowed
      cases allowed
    · rw [special c (List.mem_cons_of_mem _ parting)] at allowed
      cases allowed

/-- Something is written for every name. -/
theorem encode_ne_nil {cs : List Char} (h : cs ≠ []) : Percent.encode (fun _ => false) cs ≠ [] := by
  intro empty
  have silent : utf8 (String.ofList cs) = [] := by
    refine List.eq_nil_iff_forall_not_mem.2 fun b byte => ?_
    have nothing := List.flatMap_eq_nil_iff.1 empty b byte
    simp only at nothing
    split at nothing <;> cases nothing
  have read := congrArg text? silent
  rw [text?_utf8] at read
  exact h (String.ofList_eq_empty_iff.1 (Option.some.inj read))

/-- Two or more parts are joined by a separator. -/
theorem colon_mem_groupText {first second : Nat} {rest : List Nat} :
    ':' ∈ (Net.groupText (first :: second :: rest)).toList := by
  simp [Net.groupText, Text.joinWith]

/-- An address of version 6 is written with a colon. -/
theorem colon_mem_v6 (n : Nat) : ':' ∈ (Host.v6 n).text.toList := by
  have inside : ':' ∈ (Net.compressedText (Net.groupsOf n)).toList := by
    unfold Net.compressedText
    simp only
    split
    · simp
    · exact colon_mem_groupText
  simp [Host.text, inside]

/-! ## Reading -/

/-- How a host is read after schemes of a kind. -/
def Host.read? (kind : SchemeKind) (text : String) : Option Host :=
  if kind == .other then Host.ofOpaqueText? text else Host.ofText? text

/-- Between brackets stand addresses of version 6. -/
theorem of_bracketed? {cs : List Char} (h : bracketed? cs = some host) : ∃ n, host = .v6 n := by
  unfold bracketed? at h
  split at h
  · split at h
    · obtain ⟨n, -, rfl⟩ := Option.map_eq_some_iff.1 h
      exact ⟨n, rfl⟩
    · cases h
  · cases h

/-- The text of a host that is no address of version 6 is a name. -/
theorem Host.text_of_read? (h : Host.read? kind text = some host) (written : text ≠ "") :
    (∃ n, host = .v6 n) ∨ host.text ≠ "" ∧ ∀ c ∈ host.text.toList, IsNameChar c := by
  unfold Host.read? at h
  split at h
  · unfold Host.ofOpaqueText? at h
    split at h
    · exact .inl (of_bracketed? h)
    · split at h
      · cases h
      · rename_i plain
        cases h
        have nonempty : text.toList ≠ [] := by simpa using written
        refine .inr ⟨?_, ?_⟩
        · simpa [Host.text] using encode_ne_nil nonempty
        · rw [Host.text, String.toList_ofList]
          exact isNameChar_encode (by simpa using plain)
  · unfold Host.ofText? at h
    split at h
    · exact .inl (of_bracketed? h)
    · simp only [Option.bind_eq_bind, Option.bind_eq_some_iff] at h
      obtain ⟨decoded, -, name, ascii, h⟩ := h
      right
      split at h
      · cases h
      · rename_i named
        split at h
        · obtain ⟨n, -, rfl⟩ := Option.map_eq_some_iff.1 h
          exact ⟨dotted_ne_empty n, isNameChar_dotted n⟩
        · cases h
          exact ⟨by simpa [Host.text] using named, isNameChar_of_asciiName? ascii⟩

end Url

end Gatehouse
