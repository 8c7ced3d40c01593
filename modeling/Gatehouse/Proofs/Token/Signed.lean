import Gatehouse.Proofs.Encoding.Base64
import Gatehouse.Proofs.Except
import Gatehouse.Proofs.Text.Split
import Gatehouse.Proofs.Token.Claims
import Gatehouse.Token.Signed

/-!
# Signed tokens - Round trip

A token that was signed with a secret is taken apart again at its last two dots, because Base64
writes no dots, and says what it was signed for.  Verification with the same secret then only
depends on the time window.

Main results:

- Theorem `verify_sign`: a signed token is verified to its own claims within its window.
- Theorem `checkWindow_of_verify`: claims that are accepted are within their window.
-/

namespace Gatehouse.Token

open Json (Value)

variable {a : Algorithm} {secret : Bytes} {now : Time} {claims : Claims} {token : String}

/-! ## The parts of a token -/

/-- Base64 writes no dots. -/
theorem dot_notMem_encode (bs : Bytes) : '.' ∉ (Base64.encode Base64.urlSafe bs).toList := by
  have letters : ∀ n < 64, '.' ≠ Base64.urlSafe.letter n := by decide
  intro h
  rw [Base64.encode, String.toList_ofList] at h
  obtain ⟨n, hn, heq⟩ := Base64.mem_encodeChars h
  exact letters n hn heq

/-- A token is cut at the dots that join its parts. -/
theorem tokenParts?_join (header payload message : Bytes) :
    tokenParts? (Base64.encode Base64.urlSafe header ++ "." ++
      Base64.encode Base64.urlSafe payload ++ "." ++ Base64.encode Base64.urlSafe message) =
      some (Base64.encode Base64.urlSafe header, Base64.encode Base64.urlSafe payload,
        Base64.encode Base64.urlSafe message) := by
  have outer := Text.cutLast?_append (dot_notMem_encode message)
    (Base64.encode Base64.urlSafe header ++ "." ++ Base64.encode Base64.urlSafe payload)
  have inner := Text.cutLast?_append (dot_notMem_encode payload)
    (Base64.encode Base64.urlSafe header)
  have dot : String.singleton '.' = "." := rfl
  rw [dot] at outer inner
  simp [tokenParts?, outer, inner]

/-- A document is read back from the part that it was written to. -/
theorem readPart_encodePart {v : Value} (h : v.IsDocument Json.maxDepth) :
    readPart (encodePart v.render) = .ok v := by
  rw [readPart, encodePart, Base64.decode?_encode Base64.faithful_urlSafe]
  simp [Json.parseBytes?_render h]

/-- The header names the algorithm that it was written for. -/
theorem headerAlgorithm?_header (a : Algorithm) :
    headerAlgorithm? (.object [("typ", .string "JWT"), ("alg", .string a.name)]) =
      some (some a) := by
  cases a <;> rfl

theorem readPart_header (a : Algorithm) :
    readPart (encodePart (headerText a)) =
      .ok (.object [("typ", .string "JWT"), ("alg", .string a.name)]) := by
  refine readPart_encodePart ?_
  show Value.IsDocument (126 + 1) _
  refine Json.isDocument_object fun m hm => ?_
  simp only [List.mem_cons, List.not_mem_nil, or_false] at hm
  rcases hm with rfl | rfl
  · exact Json.isDocument_string _ _
  · exact Json.isDocument_string _ _

/-- Claims are read back from the part that they were written to. -/
theorem readClaims_encodePart (h : claims.IsTimely) :
    readClaims (encodePart claims.toJson.render) = .ok claims := by
  have readObject : ∀ v, Claims.ofJson? v = some claims → (∃ members, v = .object members) →
      readPart (encodePart claims.toJson.render) = .ok v →
      readClaims (encodePart claims.toJson.render) = .ok claims := by
    rintro _ hv ⟨members, rfl⟩ hp
    rw [readClaims, hp]
    simp [hv, bind, Except.bind]
  exact readObject _ (Claims.ofJson?_toJson h) ⟨_, rfl⟩
    (readPart_encodePart (Claims.isDocument_toJson h))

/-! ## Verification -/

/-- Whatever signs has a secret. -/
theorem secret_ne_nil_of_sign (h : sign a secret claims = .ok token) : secret.isEmpty = false := by
  unfold sign at h
  split at h
  · cases h
  · simpa using ‹¬secret.isEmpty = true›

/-- The parts of a signed token. -/
theorem tokenParts?_of_sign (h : sign a secret claims = .ok token) :
    tokenParts? token = some (encodePart (headerText a), encodePart claims.toJson.render,
      signature a secret (signedMessage a claims)) := by
  rw [sign, secret_ne_nil_of_sign h] at h
  obtain rfl := Except.ok.inj h
  exact tokenParts?_join _ _ _

/-- A signed token is verified to its own claims, as long as it is within its window. -/
theorem verify_sign (h : sign a secret claims = .ok token) (timely : claims.IsTimely) :
    verify secret now token = (checkWindow now claims).map fun _ => claims := by
  rw [verify, secret_ne_nil_of_sign h, tokenParts?_of_sign h]
  simp only [readPart_header, headerAlgorithm?_header, readClaims_encodePart timely, bind,
    Except.bind]
  rw [if_neg (by simp), if_neg (by simp [signedMessage])]
  cases checkWindow now claims <;> rfl

/-- Whatever a signed token is accepted for is what it was signed for. -/
theorem eq_of_verify_sign {accepted : Claims} (h : sign a secret claims = .ok token)
    (timely : claims.IsTimely) (hv : verify secret now token = .ok accepted) :
    accepted = claims := by
  rw [verify_sign h timely] at hv
  cases hw : checkWindow now claims with
  | error e =>
      rw [hw] at hv
      cases hv
  | ok u =>
      rw [hw] at hv
      cases hv
      rfl

/-- The window of claims: not before its start and not after its end. -/
theorem checkWindow_eq_ok :
    checkWindow now claims = .ok () ↔
      0 ≤ claims.expiresAt ∧ now ≤ claims.expiresAt ∧
        (0 ≤ claims.notBefore → claims.notBefore ≤ now) := by
  unfold checkWindow
  split
  · rename_i beforeEpoch
    exact ⟨nofun, fun h => absurd beforeEpoch (Int.not_lt.2 h.1)⟩
  · rename_i written
    split
    · rename_i expired
      exact ⟨nofun, fun h => absurd expired (Int.not_lt.2 h.2.1)⟩
    · rename_i alive
      split
      · rename_i early
        exact ⟨nofun, fun h => absurd early.2 (Int.not_lt.2 (h.2.2 early.1))⟩
      · rename_i begun
        exact ⟨fun _ => ⟨Int.not_lt.1 written, Int.not_lt.1 alive,
          fun h => Int.not_lt.1 fun early => begun ⟨h, early⟩⟩, fun _ => rfl⟩

/-- Claims that are accepted are within their window. -/
theorem checkWindow_of_verify (h : verify secret now token = .ok claims) :
    checkWindow now claims = .ok () := by
  cases hasSecret : secret.isEmpty with
  | true => simp [verify, hasSecret, throw, throwThe, MonadExceptOf.throw, bind, Except.bind] at h
  | false =>
      simp only [verify, hasSecret, Bool.false_eq_true, if_false] at h
      split at h
      · obtain ⟨v, -, h⟩ := exists_of_bind_eq_ok h
        split at h
        · split at h
          · split at h
            · cases h
            · obtain ⟨c, -, h⟩ := exists_of_bind_eq_ok h
              obtain ⟨⟨⟩, hw, h⟩ := exists_of_bind_eq_ok h
              cases h
              exact hw
          · cases h
        · cases h
      · cases h

end Gatehouse.Token
