import Gatehouse.Credential.SecondFactor

/-!
# Recovery codes - Spellings

A recovery code may be written with anything between its letters and digits and in any case.  Two
texts are spellings of one code when they can be read side by side like that, and these are just the
texts that are normalized alike.

Main definition: `SameCode`: two texts that are spellings of one code.

Main results:

- Theorem `sameCode_iff`: spellings of one code are normalized alike.
- Theorem `SameCode.digest?_eq` and theorem `digest?_eq_iff`: spellings of one code have one digest,
  and only these where the hash does not collide.
- Theorem `digest?_eq_none_iff`: texts without letters and digits are no codes.
-/

namespace Gatehouse.Credential.RecoveryCode

/-- Read side by side, the texts have the same ASCII letters and digits, up to the case of letters.
Every other character is passed over. -/
inductive SameCode : List Char → List Char → Prop
  | nil : SameCode [] []
  | passLeft {c : Char} {cs ds : List Char} (other : c.isAlphanum = false) (rest : SameCode cs ds) :
      SameCode (c :: cs) ds
  | passRight {d : Char} {cs ds : List Char} (other : d.isAlphanum = false)
      (rest : SameCode cs ds) : SameCode cs (d :: ds)
  | both {c d : Char} {cs ds : List Char} (left : c.isAlphanum = true) (right : d.isAlphanum = true)
      (same : Text.upperChar c = Text.upperChar d) (rest : SameCode cs ds) :
      SameCode (c :: cs) (d :: ds)

/-- The letters and digits in upper case. -/
def letters (cs : List Char) : List Char :=
  (cs.filter Char.isAlphanum).map Text.upperChar

theorem letters_cons_of_other {c : Char} (other : c.isAlphanum = false) (cs : List Char) :
    letters (c :: cs) = letters cs := by
  rw [letters, List.filter_cons_of_neg (by simp [other]), letters]

theorem letters_cons_of_alphanum {c : Char} (h : c.isAlphanum = true) (cs : List Char) :
    letters (c :: cs) = Text.upperChar c :: letters cs := by
  rw [letters, List.filter_cons_of_pos h, List.map_cons, letters]

/-- A text without letters and digits is another spelling of the empty one. -/
theorem sameCode_nil {ds : List Char} (h : letters ds = []) : SameCode [] ds := by
  induction ds with
  | nil => exact .nil
  | cons d ds ih =>
      cases kind : d.isAlphanum with
      | false => exact .passRight kind (ih (letters_cons_of_other kind ds ▸ h))
      | true =>
          rw [letters_cons_of_alphanum kind] at h
          cases h

/-- What begins with a letter or digit is a spelling of what has that one first. -/
theorem sameCode_cons {c : Char} {cs ds : List Char} (kind : c.isAlphanum = true)
    (rest : ∀ es, letters cs = letters es → SameCode cs es)
    (h : letters (c :: cs) = letters ds) : SameCode (c :: cs) ds := by
  rw [letters_cons_of_alphanum kind] at h
  induction ds with
  | nil => cases h
  | cons d ds ih =>
      cases kind' : d.isAlphanum with
      | false => exact .passRight kind' (ih (letters_cons_of_other kind' ds ▸ h))
      | true =>
          rw [letters_cons_of_alphanum kind', List.cons.injEq] at h
          exact .both kind kind' h.1 (rest ds h.2)

/-- Spellings of one code are the texts with the same letters and digits in upper case. -/
theorem sameCode_iff_letters {cs ds : List Char} : SameCode cs ds ↔ letters cs = letters ds := by
  constructor
  · intro h
    induction h with
    | nil => rfl
    | passLeft other rest ih => rw [letters_cons_of_other other, ih]
    | passRight other rest ih => rw [letters_cons_of_other other, ih]
    | both left right same rest ih =>
        rw [letters_cons_of_alphanum left, letters_cons_of_alphanum right, same, ih]
  · intro h
    induction cs generalizing ds with
    | nil => exact sameCode_nil h.symm
    | cons c cs ih =>
        cases kind : c.isAlphanum with
        | false => exact .passLeft kind (ih (letters_cons_of_other kind cs ▸ h))
        | true => exact sameCode_cons kind (fun _ => ih) h

/-- Spellings of one code are normalized alike. -/
theorem sameCode_iff {code code' : String} :
    SameCode code.toList code'.toList ↔ normalized code = normalized code' := by
  rw [sameCode_iff_letters]
  exact String.ofList_inj.symm

/-! ## Digests -/

/-- A text without letters and digits is no code. -/
theorem digest?_eq_none_iff {code : String} :
    digest? code = none ↔ ∀ c ∈ code.toList, c.isAlphanum = false := by
  simp [digest?, normalized]

/-- The digest of a code is that of its normal form. -/
theorem digest?_of_normalized {code normal : String} (h : normalized code = normal)
    (nonempty : normal ≠ "") : digest? code = some (Token.sha256Hex normal) := by
  simp [digest?, h, nonempty]

/-- Spellings of one code have one digest. -/
theorem SameCode.digest?_eq {code code' : String} (h : SameCode code.toList code'.toList) :
    digest? code = digest? code' := by
  rw [digest?, sameCode_iff.1 h, digest?]

/-- Where the hash does not collide on them, texts have one digest only as spellings of one code. -/
theorem digest?_eq_iff {code code' : String}
    (collisionFree : Token.sha256Hex (normalized code) = Token.sha256Hex (normalized code') →
      normalized code = normalized code') :
    digest? code = digest? code' ↔ SameCode code.toList code'.toList := by
  refine ⟨fun same => sameCode_iff.2 ?_, SameCode.digest?_eq⟩
  by_cases blank : normalized code = ""
  · by_cases blank' : normalized code' = ""
    · rw [blank, blank']
    · rw [digest?_of_normalized rfl blank', digest?, blank] at same
      cases same
  · by_cases blank' : normalized code' = ""
    · rw [digest?_of_normalized rfl blank, digest?, blank'] at same
      cases same
    · rw [digest?_of_normalized rfl blank, digest?_of_normalized rfl blank'] at same
      exact collisionFree (Option.some.inj same)

end Gatehouse.Credential.RecoveryCode
