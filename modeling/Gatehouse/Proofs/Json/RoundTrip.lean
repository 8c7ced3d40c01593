import Gatehouse.Json.Parser
import Gatehouse.Json.Printer
import Gatehouse.Proofs.Text.Decimal
import Mathlib.Tactic.SplitIfs

/-!
# JSON - Round trip

The compact text of a value is read as that value.  The reader is given more text than the value
has, so each lemma speaks of a text with a rest; the rest of a number may not go on with a digit,
a point or an exponent, and after a value in a document there is a comma, a closing bracket or
nothing.

Main results:

- Theorem `scanString_quoted`: every text survives its escapes.
- Theorem `scanValue_chars`: a plain value is read back, and what follows it is left.
- Theorem `parseBytes?_render`: a document is read back from its bytes.
-/

namespace Gatehouse.Json

/-! ## Strings -/

/-- A digit of an escape is read as its value. -/
theorem value?_digit : ∀ n < 16, Hex.value? (Hex.digit n) = some n := by
  decide

/-- Each character is read back from the form that it has in a string. -/
theorem scanCodes_escapeChar (c : Char) (rest : List Char) :
    scanCodes (escapeChar c ++ rest) =
      (scanCodes rest).map fun (codes, rest) => (c.toNat :: codes, rest) := by
  unfold escapeChar
  split_ifs with quote backslash backspace feed newline return_ tab control
  · subst quote
    cases h : scanCodes rest <;> simp [scanCodes, escaped?, h]
  · subst backslash
    cases h : scanCodes rest <;> simp [scanCodes, escaped?, h]
  · subst backspace
    cases h : scanCodes rest <;> simp [scanCodes, escaped?, h]
  · subst feed
    cases h : scanCodes rest <;> simp [scanCodes, escaped?, h]
  · subst newline
    cases h : scanCodes rest <;> simp [scanCodes, escaped?, h]
  · subst return_
    cases h : scanCodes rest <;> simp [scanCodes, escaped?, h]
  · subst tab
    cases h : scanCodes rest <;> simp [scanCodes, escaped?, h]
  · have high := value?_digit (c.toNat / 16) (by omega)
    have low := value?_digit (c.toNat % 16) (by omega)
    have zero : Hex.value? '0' = some 0 := rfl
    have code : c.toNat / 16 * 16 + c.toNat % 16 = c.toNat := by omega
    cases h : scanCodes rest <;> simp [scanCodes, hexUnit?, high, low, zero, code, h]
  · simp only [List.cons_append, List.nil_append]
    rw [scanCodes]
    · rw [if_neg control]
      cases h : scanCodes rest <;> simp
    · exact quote
    · exact fun _ _ _ _ _ h _ => backslash h
    · exact fun _ _ h _ => backslash h

/-- The codes of a text between quotes are those of its characters. -/
theorem scanCodes_escaped (cs rest : List Char) :
    scanCodes (cs.flatMap escapeChar ++ '"' :: rest) = some (cs.map Char.toNat, rest) := by
  induction cs with
  | nil => simp [scanCodes]
  | cons c cs ih =>
      rw [List.flatMap_cons, List.append_assoc, scanCodes_escapeChar, ih]
      rfl

/-- The code of a character is no half of a surrogate pair. -/
theorem not_surrogate (c : Char) : ¬(0xD800 ≤ c.toNat ∧ c.toNat < 0xE000) := by
  have hc := c.valid
  rintro ⟨low, high⟩
  rcases hc with h | ⟨h, -⟩
  · change c.toNat < 0xD800 at h
    omega
  · change 0xDFFF < c.toNat at h
    omega

/-- Codes of characters are joined to those characters. -/
theorem joinCodes_toNat (cs : List Char) : joinCodes (cs.map Char.toNat) = some cs := by
  induction cs with
  | nil => rfl
  | cons c cs ih =>
      have hc := not_surrogate c
      rw [List.map_cons, joinCodes.eq_def]
      simp only
      rw [if_neg (by omega), if_neg (by omega), ih, Option.map_some, Char.ofNat_toNat]

/-- A text survives its escapes. -/
theorem scanString_quoted (s : String) (rest : List Char) :
    scanString (s.toList.flatMap escapeChar ++ '"' :: rest) = some (some s, rest) := by
  simp [scanString, scanCodes_escaped, joinCodes_toNat]

/-! ## Numbers -/

/-- What may stand behind a value in a compact document. -/
def Follows (rest : List Char) : Prop :=
  rest = [] ∨ ∃ c cs, rest = c :: cs ∧ (c = ',' ∨ c = ']' ∨ c = '}')

/-- A value does not go on with what follows it. -/
theorem Follows.not_digit {rest : List Char} (h : Follows rest) :
    ∀ c ∈ rest.head?, Decimal.isDigit c = false := by
  intro c hc
  rcases h with rfl | ⟨c', cs, rfl, h⟩
  · simp at hc
  · obtain rfl : c' = c := by simpa using hc
    rcases h with rfl | rfl | rfl <;> decide

/-- Digits are cut off at the first other character. -/
theorem spanDigits_append {ds rest : List Char} (hds : ∀ c ∈ ds, Decimal.isDigit c = true)
    (hrest : ∀ c ∈ rest.head?, Decimal.isDigit c = false) :
    spanDigits (ds ++ rest) = (ds, rest) := by
  have front : rest.takeWhile Decimal.isDigit = [] ∧ rest.dropWhile Decimal.isDigit = rest := by
    cases rest with
    | nil => simp
    | cons c cs => simp [hrest c (by simp)]
  rw [spanDigits, List.takeWhile_append_of_pos hds, List.dropWhile_append_of_pos hds, front.1,
    front.2, List.append_nil]

theorem scanFraction_of_follows {rest : List Char} (h : Follows rest) :
    scanFraction rest = some (none, rest) := by
  rcases h with rfl | ⟨c, cs, rfl, h⟩
  · rfl
  · rcases h with rfl | rfl | rfl <;> rfl

theorem scanExponent_of_follows {rest : List Char} (h : Follows rest) :
    scanExponent rest = some (none, rest) := by
  rcases h with rfl | ⟨c, cs, rfl, h⟩
  · rfl
  · rcases h with rfl | rfl | rfl <;> rfl

/-- Is the magnitude with its sign a whole number of 64 bits, signed or unsigned? -/
def Fits (negative : Bool) (n : Nat) : Prop :=
  if negative then 0 < n ∧ Word.firstSigned64 ≤ -(n : Int) else n < Word.bound64

/-- The digits of a number are read as that number when it fits into 64 bits. -/
theorem scanMagnitude_digits {negative : Bool} {n : Nat} (fits : Fits negative n)
    {rest : List Char} (h : Follows rest) :
    scanMagnitude negative (Decimal.digits n ++ rest) =
      some (.number (.whole (if negative then -(n : Int) else n)), rest) := by
  have digits : ∀ c ∈ Decimal.digits n, Decimal.isDigit c = true := fun c hc =>
    Decimal.isDigit_of_mem_digits hc
  have span := spanDigits_append digits h.not_digit
  have front : (Decimal.digits n).isEmpty = false := by
    simpa [List.isEmpty_iff] using Decimal.digits_ne_nil n
  have noZero : (decide ((Decimal.digits n).length > 1) &&
      (Decimal.digits n).head? == some '0') = false := by
    rcases Nat.eq_zero_or_pos n with rfl | hn
    · rfl
    · simpa using fun _ => Decimal.head?_digits hn
  have value : numberValue negative (Decimal.digits n) [] 0 true =
      .number (.whole (if negative then -(n : Int) else n)) := by
    cases negative with
    | true =>
        have ⟨positive, low⟩ : 0 < n ∧ Word.firstSigned64 ≤ -(n : Int) := by simpa [Fits] using fits
        simp [numberValue, Decimal.ofDigits_digits, positive, low]
    | false =>
        have below : n < Word.bound64 := by simpa [Fits] using fits
        simp [numberValue, Decimal.ofDigits_digits, below]
  simp [scanMagnitude, span, front, noZero, scanFraction_of_follows h, scanExponent_of_follows h,
    value]

/-- A number begins with a digit or its sign, which begins no other value. -/
theorem scanValue_eq_scanNumber {c : Char} (hc : Decimal.isDigit c = true ∨ c = '-')
    (fuel : Nat) (cs : List Char) : scanValue (fuel + 1) (c :: cs) = scanNumber (c :: cs) := by
  have other : ∀ d : Char, Decimal.isDigit d = false → d ≠ '-' → c ≠ d := by
    rintro d hd hm rfl
    rcases hc with h | h
    · rw [hd] at h
      cases h
    · exact hm h
  have gap : skipGap (c :: cs) = c :: cs := by
    rw [skipGap, List.dropWhile_cons_of_neg]
    simp only [isGap, Bool.or_eq_true, beq_iff_eq, not_or]
    refine ⟨⟨⟨?_, ?_⟩, ?_⟩, ?_⟩ <;> exact other _ rfl (by decide)
  rw [scanValue.eq_def]
  simp only [gap]
  split
  · rename_i h
    exact absurd (List.cons.inj h).1 (other _ rfl (by decide))
  · rename_i h
    exact absurd (List.cons.inj h).1 (other _ rfl (by decide))
  · rename_i h
    exact absurd (List.cons.inj h).1 (other _ rfl (by decide))
  · rename_i h
    exact absurd (List.cons.inj h).1 (other _ rfl (by decide))
  · rename_i h
    exact absurd (List.cons.inj h).1 (other _ rfl (by decide))
  · rename_i h
    exact absurd (List.cons.inj h).1 (other _ rfl (by decide))
  · rfl

/-- A whole number of 64 bits is read back. -/
theorem scanValue_intChars {i : Int} (low : Word.firstSigned64 ≤ i) (high : i < Word.bound64)
    (fuel : Nat) {rest : List Char} (h : Follows rest) :
    scanValue (fuel + 1) (Decimal.intChars i ++ rest) = some (.number (.whole i), rest) := by
  cases i with
  | ofNat n =>
      have fits : Fits false n := by
        simp only [Fits, Bool.false_eq_true, if_false]
        exact Int.ofNat_lt.1 high
      obtain ⟨d, ds, hd⟩ := List.exists_cons_of_ne_nil (Decimal.digits_ne_nil n)
      have digit : Decimal.isDigit d = true :=
        Decimal.isDigit_of_mem_digits (n := n) (by rw [hd]; exact List.mem_cons_self)
      have scanned := scanMagnitude_digits fits h
      rw [hd, List.cons_append] at scanned
      rw [Decimal.intChars, hd, List.cons_append, scanValue_eq_scanNumber (.inl digit), scanNumber]
      · simpa using scanned
      · rintro cs' hcs
        obtain ⟨rfl, -⟩ := List.cons.inj hcs
        cases digit
  | negSucc n =>
      have fits : Fits true (n + 1) := by
        simp only [Fits, if_true]
        exact ⟨by omega, low⟩
      rw [Decimal.intChars, List.cons_append, scanValue_eq_scanNumber (.inr rfl), scanNumber,
        scanMagnitude_digits fits h]
      rfl

/-! ## Values -/

mutual
/-- A value is plain when its numbers are whole and fit into 64 bits. -/
def Value.IsPlain : Value → Prop
  | .number (.whole i) => Word.firstSigned64 ≤ i ∧ i < Word.bound64
  | .number (.decimal _ _) => False
  | .array items => ItemsPlain items
  | .object members => MembersPlain members
  | .unusable => False
  | _ => True

/-- Are all items plain? -/
def ItemsPlain : List Value → Prop
  | [] => True
  | v :: rest => v.IsPlain ∧ ItemsPlain rest

/-- Are all members plain? -/
def MembersPlain : List (String × Value) → Prop
  | [] => True
  | (_, v) :: rest => v.IsPlain ∧ MembersPlain rest
end

theorem membersPlain_iff {members : List (String × Value)} :
    MembersPlain members ↔ ∀ m ∈ members, m.2.IsPlain := by
  induction members with
  | nil => simp [MembersPlain]
  | cons m rest ih =>
      rw [MembersPlain, ih, List.forall_mem_cons]

theorem itemsPlain_iff {items : List Value} :
    ItemsPlain items ↔ ∀ v ∈ items, v.IsPlain := by
  induction items with
  | nil => simp [ItemsPlain]
  | cons v rest ih =>
      rw [ItemsPlain, ih, List.forall_mem_cons]

theorem follows_itemsChars (items : List Value) (rest : List Char) :
    Follows (itemsChars items ++ rest) := by
  cases items with
  | nil => exact .inr ⟨']', rest, by simp [itemsChars], by simp⟩
  | cons v items => exact .inr ⟨',', v.chars ++ itemsChars items ++ rest, by simp [itemsChars], by simp⟩

theorem follows_membersChars (members : List (String × Value)) (rest : List Char) :
    Follows (membersChars members ++ rest) := by
  cases members with
  | nil => exact .inr ⟨'}', rest, by simp [membersChars], by simp⟩
  | cons m members =>
      exact .inr ⟨',', quoted m.1 ++ ':' :: m.2.chars ++ membersChars members ++ rest,
        by simp [membersChars], by simp⟩

/-- A whole number begins with a digit or its sign. -/
theorem exists_intChars_eq_cons (i : Int) :
    ∃ c cs, Decimal.intChars i = c :: cs ∧ (Decimal.isDigit c = true ∨ c = '-') := by
  cases i with
  | ofNat n =>
      obtain ⟨d, ds, hd⟩ := List.exists_cons_of_ne_nil (Decimal.digits_ne_nil n)
      exact ⟨d, ds, hd, .inl (Decimal.isDigit_of_mem_digits (n := n) (by simp [hd]))⟩
  | negSucc n => exact ⟨'-', _, rfl, .inr rfl⟩

/-- A value begins neither with a blank nor with a closing bracket. -/
theorem exists_chars_eq_cons (v : Value) :
    ∃ c cs, v.chars = c :: cs ∧ isGap c = false ∧ c ≠ ']' := by
  have number : ∀ i : Int, ∃ c cs, Decimal.intChars i = c :: cs ∧ isGap c = false ∧ c ≠ ']' := by
    intro i
    obtain ⟨c, cs, heq, hc⟩ := exists_intChars_eq_cons i
    refine ⟨c, cs, heq, ?_⟩
    rcases hc with hc | rfl
    · have digits : ∀ d : Char, Decimal.isDigit d = false → c ≠ d := by
        rintro d hd rfl
        rw [hd] at hc
        cases hc
      simp only [isGap, Bool.or_eq_false_iff, beq_eq_false_iff_ne]
      exact ⟨⟨⟨⟨digits _ rfl, digits _ rfl⟩, digits _ rfl⟩, digits _ rfl⟩, digits _ rfl⟩
    · exact ⟨rfl, by decide⟩
  cases v with
  | null => exact ⟨'n', _, by rw [Value.chars], rfl, by decide⟩
  | bool b =>
      cases b with
      | true => exact ⟨'t', _, by rw [Value.chars], rfl, by decide⟩
      | false => exact ⟨'f', _, by rw [Value.chars], rfl, by decide⟩
  | number n =>
      cases n with
      | whole i =>
          obtain ⟨c, cs, heq, hc⟩ := number i
          exact ⟨c, cs, by rw [Value.chars, Number.chars, heq], hc⟩
      | decimal mantissa exponent =>
          obtain ⟨c, cs, heq, hc⟩ := number mantissa
          exact ⟨c, _, by rw [Value.chars, Number.chars, heq, List.cons_append], hc⟩
  | string s => exact ⟨'"', _, by rw [Value.chars, quoted, List.cons_append], rfl, by decide⟩
  | array items =>
      cases items with
      | nil => exact ⟨'[', _, by rw [Value.chars], rfl, by decide⟩
      | cons v rest => exact ⟨'[', _, by rw [Value.chars, List.cons_append], rfl, by decide⟩
  | object members =>
      cases members with
      | nil => exact ⟨'{', _, by rw [Value.chars], rfl, by decide⟩
      | cons m rest => exact ⟨'{', _, by rw [Value.chars]; rfl, rfl, by decide⟩
  | unusable => exact ⟨'n', _, by rw [Value.chars], rfl, by decide⟩

/-- There are no blanks to skip in front of a value. -/
theorem skipGap_chars (v : Value) (rest : List Char) :
    skipGap (v.chars ++ rest) = v.chars ++ rest := by
  obtain ⟨c, cs, heq, hc, -⟩ := exists_chars_eq_cons v
  rw [heq, List.cons_append, skipGap, List.dropWhile_cons_of_neg (by simp [hc])]

/-- Members whose names are texts make an object. -/
theorem objectOf_some (members : List (String × Value)) :
    objectOf (members.map fun m => (some m.1, m.2)) = .object members := by
  have all : members.mapM (some ·) = some members := by
    induction members with
    | nil => rfl
    | cons m rest ih => simp [List.mapM_cons, ih]
  rw [objectOf, List.mapM_map]
  split
  · rename_i found h
    obtain rfl := Option.some.inj (h.symm.trans all)
    rfl
  · rename_i h
    cases h.symm.trans all

mutual
/-- A plain value is read back, and what follows it is left.  Each value takes more characters than
the reader takes steps into it, so their number is fuel enough. -/
theorem scanValue_chars : ∀ (v : Value) (fuel : Nat) (rest : List Char),
    v.IsPlain → v.chars.length ≤ fuel → Follows rest →
      scanValue fuel (v.chars ++ rest) = some (v, rest)
  | v, 0, rest, _, bound, _ => by
      obtain ⟨c, cs, heq, -⟩ := exists_chars_eq_cons v
      simp [heq] at bound
  | .null, fuel + 1, rest, _, _, _ => by simp [Value.chars, scanValue, skipGap, isGap]
  | .bool true, fuel + 1, rest, _, _, _ => by simp [Value.chars, scanValue, skipGap, isGap]
  | .bool false, fuel + 1, rest, _, _, _ => by simp [Value.chars, scanValue, skipGap, isGap]
  | .number (.whole i), fuel + 1, rest, plain, _, follows => by
      rw [Value.IsPlain] at plain
      rw [Value.chars, Number.chars]
      exact scanValue_intChars plain.1 plain.2 fuel follows
  | .number (.decimal _ _), fuel + 1, rest, plain, _, _ => by simp [Value.IsPlain] at plain
  | .string s, fuel + 1, rest, _, _, _ => by
      simp [Value.chars, quoted, scanValue, skipGap, isGap, scanString_quoted]
  | .array [], fuel + 1, rest, _, _, _ => by simp [Value.chars, scanValue, skipGap, isGap]
  | .array (v :: items), fuel + 1, rest, plain, bound, _ => by
      rw [Value.IsPlain, ItemsPlain] at plain
      simp only [Value.chars, List.length_append, List.length_cons] at bound
      have first := scanValue_chars v fuel (itemsChars items ++ rest) plain.1 (by omega)
        (follows_itemsChars items rest)
      have others := scanItems_chars items fuel rest plain.2 (by omega)
      obtain ⟨c, cs, heq, hgap, hclose⟩ := exists_chars_eq_cons v
      have skip := skipGap_chars v (itemsChars items ++ rest)
      rw [heq, List.cons_append] at first skip
      have open_ : skipGap ('[' :: (c :: (cs ++ (itemsChars items ++ rest)))) =
          '[' :: (c :: (cs ++ (itemsChars items ++ rest))) := by simp [skipGap, isGap]
      simp only [Value.chars, heq, List.cons_append, List.append_assoc]
      simp [scanValue, open_, skip, hclose, first, others]
  | .object [], fuel + 1, rest, _, _, _ => by simp [Value.chars, scanValue, skipGap, isGap]
  | .object ((name, v) :: members), fuel + 1, rest, plain, bound, _ => by
      rw [Value.IsPlain, MembersPlain] at plain
      simp only [Value.chars, List.length_append, List.length_cons] at bound
      have first := scanMember_chars name v fuel (membersChars members ++ rest) plain.1 (by omega)
        (follows_membersChars members rest)
      have others := scanMembers_chars members fuel rest plain.2 (by omega)
      have whole := objectOf_some ((name, v) :: members)
      simp only [quoted, List.cons_append, List.append_assoc, List.nil_append] at first
      rw [List.map_cons] at whole
      simp [Value.chars, quoted, scanValue, skipGap, isGap, first, others, whole]
  | .unusable, fuel + 1, rest, plain, _, _ => by simp [Value.IsPlain] at plain

/-- The items after the first one are read back. -/
theorem scanItems_chars : ∀ (items : List Value) (fuel : Nat) (rest : List Char),
    ItemsPlain items → (itemsChars items).length ≤ fuel →
      scanItems fuel (itemsChars items ++ rest) = some (items, rest)
  | [], 0, rest, _, bound => by simp [itemsChars] at bound
  | _ :: _, 0, rest, _, bound => by simp [itemsChars] at bound
  | [], fuel + 1, rest, _, _ => by simp [itemsChars, scanItems, skipGap, isGap]
  | v :: items, fuel + 1, rest, plain, bound => by
      rw [ItemsPlain] at plain
      simp only [itemsChars, List.length_append, List.length_cons] at bound
      have first := scanValue_chars v fuel (itemsChars items ++ rest) plain.1 (by omega)
        (follows_itemsChars items rest)
      have others := scanItems_chars items fuel rest plain.2 (by omega)
      simp [itemsChars, scanItems, skipGap, isGap, first, others]

/-- A name and its value are read back. -/
theorem scanMember_chars : ∀ (name : String) (v : Value) (fuel : Nat) (rest : List Char),
    v.IsPlain → (quoted name).length + 1 + v.chars.length ≤ fuel → Follows rest →
      scanMember fuel (quoted name ++ ':' :: v.chars ++ rest) = some ((some name, v), rest)
  | name, v, 0, rest, _, bound, _ => by omega
  | name, v, fuel + 1, rest, plain, bound, follows => by
      have value := scanValue_chars v fuel rest plain (by omega) follows
      simp [quoted, scanMember, skipGap, isGap, scanString_quoted, value]

/-- The members after the first one are read back. -/
theorem scanMembers_chars : ∀ (members : List (String × Value)) (fuel : Nat) (rest : List Char),
    MembersPlain members → (membersChars members).length ≤ fuel →
      scanMembers fuel (membersChars members ++ rest) =
        some (members.map fun m => (some m.1, m.2), rest)
  | [], 0, rest, _, bound => by simp [membersChars] at bound
  | _ :: _, 0, rest, _, bound => by simp [membersChars] at bound
  | [], fuel + 1, rest, _, _ => by simp [membersChars, scanMembers, skipGap, isGap]
  | (name, v) :: members, fuel + 1, rest, plain, bound => by
      rw [MembersPlain] at plain
      simp only [membersChars, List.length_append, List.length_cons] at bound
      have first := scanMember_chars name v fuel (membersChars members ++ rest) plain.1 (by omega)
        (follows_membersChars members rest)
      have others := scanMembers_chars members fuel rest plain.2 (by omega)
      simp only [quoted, List.cons_append, List.append_assoc, List.nil_append] at first
      simp [membersChars, quoted, scanMembers, skipGap, isGap, first, others]
end

/-! ## Documents -/

/-- Members that are not nested too deep stay as they are. -/
theorem membersWithin_eq_self {depth : Nat} {members : List (String × Value)}
    (h : ∀ m ∈ members, m.2.withinDepth depth = m.2) : membersWithin depth members = members := by
  induction members with
  | nil => rw [membersWithin]
  | cons m rest ih =>
      rw [List.forall_mem_cons] at h
      rw [membersWithin, h.1, ih h.2]

/-- Items that are not nested too deep stay as they are. -/
theorem itemsWithin_eq_self {depth : Nat} {items : List Value}
    (h : ∀ v ∈ items, v.withinDepth depth = v) : itemsWithin depth items = items := by
  induction items with
  | nil => rw [itemsWithin]
  | cons v rest ih =>
      rw [List.forall_mem_cons] at h
      rw [itemsWithin, h.1, ih h.2]

/-- A value that a document can hold: plain, and not nested too deep. -/
structure Value.IsDocument (depth : Nat) (v : Value) : Prop where
  plain : v.IsPlain
  shallow : v.withinDepth depth = v

theorem isDocument_string (depth : Nat) (s : String) : (Value.string s).IsDocument depth where
  plain := by simp [Value.IsPlain]
  shallow := by simp [Value.withinDepth]

theorem isDocument_int {i : Int} (low : Word.firstSigned64 ≤ i) (high : i < Word.bound64)
    (depth : Nat) : (Value.int i).IsDocument depth where
  plain := by simpa [Value.int, Value.IsPlain] using And.intro low high
  shallow := by simp [Value.int, Value.withinDepth]

theorem isDocument_object {depth : Nat} {members : List (String × Value)}
    (h : ∀ m ∈ members, m.2.IsDocument depth) : (Value.object members).IsDocument (depth + 1) where
  plain := by
    rw [Value.IsPlain, membersPlain_iff]
    exact fun m hm => (h m hm).plain
  shallow := by
    rw [Value.withinDepth, membersWithin_eq_self fun m hm => (h m hm).shallow]

theorem isDocument_array {depth : Nat} {items : List Value}
    (h : ∀ v ∈ items, v.IsDocument depth) : (Value.array items).IsDocument (depth + 1) where
  plain := by
    rw [Value.IsPlain, itemsPlain_iff]
    exact fun v hv => (h v hv).plain
  shallow := by
    rw [Value.withinDepth, itemsWithin_eq_self fun v hv => (h v hv).shallow]

/-- A document is read back from its text. -/
theorem parse?_render {v : Value} (h : v.IsDocument maxDepth) : parse? v.render = some v := by
  have scanned := scanValue_chars v (2 * v.chars.length + 2) [] h.plain (by omega) (.inl rfl)
  rw [List.append_nil] at scanned
  simp [parse?, parseChars?, Value.render, scanned, skipGap, h.shallow]

/-- A document is read back from its bytes. -/
theorem parseBytes?_render {v : Value} (h : v.IsDocument maxDepth) :
    parseBytes? (utf8 v.render) = some v := by
  rw [parseBytes?, textMarking, text?_utf8]
  exact parse?_render h

end Gatehouse.Json
