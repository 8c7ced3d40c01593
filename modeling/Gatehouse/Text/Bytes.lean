/-!
# Bytes and their text

Header values, secrets and token parts are byte strings.  `utf8` gives the bytes of a text and
`text?` reads them back; `lossyText` reads any bytes and writes U+FFFD for each maximal part that
is not well-formed UTF-8.

Main results:

- `text?_utf8`: reading the UTF-8 form of a text gives the text.
- `utf8_of_text?`: only the UTF-8 form of a text is read as that text.
-/

namespace Gatehouse

/-- A byte string. -/
abbrev Bytes := List UInt8

/-- The UTF-8 form of a text. -/
def utf8 (s : String) : Bytes :=
  s.toUTF8.data.toList

/-- The text with the given UTF-8 form, if the bytes are well-formed. -/
def text? (bs : Bytes) : Option String :=
  String.fromUTF8? ⟨bs.toArray⟩

/-- Reading the UTF-8 form of a text gives the text. -/
@[simp] theorem text?_utf8 (s : String) : text? (utf8 s) = some s := by
  have h : (⟨s.toUTF8.data.toList.toArray⟩ : ByteArray) = s.toByteArray := rfl
  simp only [text?, utf8, String.fromUTF8?, h, dif_pos s.isValidUTF8]
  rfl

/-- Texts with the same UTF-8 form are the same. -/
theorem utf8_injective : Function.Injective utf8 := by
  intro a b same
  have read := congrArg text? same
  simpa using read

/-- Only the UTF-8 form of a text is read as that text. -/
theorem utf8_of_text? {bs : Bytes} {s : String} (h : text? bs = some s) : utf8 s = bs := by
  unfold text? String.fromUTF8? at h
  split at h
  · cases h
    rfl
  · cases h

/-! ## Reading with replacement characters -/

/-- A character whose first bytes have been read: how many bytes are still to come, the range
of the next one, and the value so far. -/
structure PartialChar where
  left : Nat
  low : UInt8
  high : UInt8
  value : Nat

/-- What the first byte of a character says: a complete character, the start of a longer one, or
a byte that begins none. -/
def leadByte (mark : List Char) (b : UInt8) : List Char × Option PartialChar :=
  let n := b.toNat
  if n < 0x80 then ([Char.ofNat n], none)
  else if 0xC2 ≤ n ∧ n ≤ 0xDF then ([], some ⟨1, 0x80, 0xBF, n - 0xC0⟩)
  else if n = 0xE0 then ([], some ⟨2, 0xA0, 0xBF, 0⟩)
  else if n = 0xED then ([], some ⟨2, 0x80, 0x9F, 0xD⟩)
  else if 0xE1 ≤ n ∧ n ≤ 0xEF then ([], some ⟨2, 0x80, 0xBF, n - 0xE0⟩)
  else if n = 0xF0 then ([], some ⟨3, 0x90, 0xBF, 0⟩)
  else if 0xF1 ≤ n ∧ n ≤ 0xF3 then ([], some ⟨3, 0x80, 0xBF, n - 0xF0⟩)
  else if n = 0xF4 then ([], some ⟨3, 0x80, 0x8F, 4⟩)
  else (mark, none)

/-- Read bytes with a character possibly under way, and write `mark` for what is no text. -/
def charsMarking (mark : List Char) : Option PartialChar → Bytes → List Char
  | none, [] => []
  | some _, [] => mark
  | none, b :: bs =>
    let (out, next) := leadByte mark b
    out ++ charsMarking mark next bs
  | some p, b :: bs =>
    if p.low ≤ b ∧ b ≤ p.high then
      let value := p.value * 64 + (b.toNat - 0x80)
      if p.left ≤ 1 then Char.ofNat value :: charsMarking mark none bs
      else charsMarking mark (some ⟨p.left - 1, 0x80, 0xBF, value⟩) bs
    else
      let (out, next) := leadByte mark b
      mark ++ out ++ charsMarking mark next bs

/-- The text of any bytes, with `mark` for each maximal part that is not well-formed. -/
def textMarking (mark : List Char) (bs : Bytes) : String :=
  match text? bs with
  | some s => s
  | none => String.ofList (charsMarking mark none bs)

/-- The text of any bytes, with U+FFFD for each maximal part that is not well-formed. -/
def lossyText (bs : Bytes) : String :=
  textMarking [Char.ofNat 0xFFFD] bs

end Gatehouse
