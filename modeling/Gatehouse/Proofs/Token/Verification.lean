import Gatehouse.Proofs.Token.Issuer

/-!
# Verification - Authentic tokens and their windows

Verification looks at the signature before it looks at the claims, and at the window last.  What is
told of a token that was not signed with the secret is therefore never that it has expired or that it
is too early for it.  The signature is compared as a text, and neither header nor payload can have a
dot, so a header and a payload have one signature for a secret.

Main definitions:

- `Authentic`: a token that was signed with the secret, and what it says.
- `vouches`: an outcome of verification that says that the signature is right.

Main results:

- Theorem `tokenParts?_eq_some_iff`: the parts of a token.
- Theorem `Authentic.unique` and theorem `authentic_of_verify`: an authentic token has its claims, and
  only authentic tokens are accepted.
- Theorem `Authentic.verify_eq` and theorem `authentic_of_vouches`: an authentic token is judged by
  its window, any other one is not looked at any further.
- Theorem `verify_vouches_iff`: what gets past the signature, and which signatures do.
- Theorem `verify_own_claims`: what becomes of the claims that a token is signed for.
-/

namespace Gatehouse.Token

variable {a : Algorithm} {secret : Bytes} {now : Time} {claims : Claims}
  {token header payload sig part : String}

/-! ## Parts of tokens -/

/-- Three parts joined by dots, the last two of which have none, are the parts of a token. -/
theorem tokenParts?_eq_some_iff :
    tokenParts? token = some (header, payload, sig) ↔
      token = header ++ "." ++ payload ++ "." ++ sig ∧ '.' ∉ payload.toList ∧
        '.' ∉ sig.toList := by
  have dot : String.singleton '.' = "." := rfl
  constructor
  · intro parts
    obtain ⟨⟨message, signature⟩, outer, parts⟩ := Option.bind_eq_some_iff.1 parts
    obtain ⟨⟨first, second⟩, inner, parts⟩ := Option.bind_eq_some_iff.1 parts
    cases parts
    obtain ⟨rfl, last⟩ := Text.cutLast?_eq_some_iff.1 outer
    obtain ⟨rfl, middle⟩ := Text.cutLast?_eq_some_iff.1 inner
    exact ⟨by rw [dot], middle, last⟩
  · rintro ⟨rfl, middle, last⟩
    have outer := Text.cutLast?_append last (header ++ "." ++ payload)
    have inner := Text.cutLast?_append middle header
    rw [dot] at outer inner
    simp [tokenParts?, outer, inner]

/-- A part that can be read has no dots. -/
theorem dot_notMem_of_readPart {v : Json.Value} (h : readPart part = .ok v) :
    '.' ∉ part.toList := by
  unfold readPart at h
  cases decoded : Base64.decode? Base64.urlSafe part with
  | none =>
      rw [decoded] at h
      cases h
  | some bytes =>
      intro dot
      have letter := Base64.value?_of_decode? decoded '.' dot
      exact absurd letter (by decide)

theorem dot_notMem_of_readClaims (h : readClaims part = .ok claims) : '.' ∉ part.toList := by
  obtain ⟨v, read, -⟩ := exists_of_bind_eq_ok h
  exact dot_notMem_of_readPart read

/-- A text of two dots has its parts between them. -/
theorem tokenParts?_of_count
    (h : (header ++ "." ++ payload ++ "." ++ sig).toList.count '.' = 2) :
    tokenParts? (header ++ "." ++ payload ++ "." ++ sig) = some (header, payload, sig) := by
  have one : ".".toList.count '.' = 1 := by decide
  simp only [String.toList_append, List.count_append, one] at h
  exact tokenParts?_eq_some_iff.2
    ⟨rfl, List.count_eq_zero.1 (by omega), List.count_eq_zero.1 (by omega)⟩

/-! ## Authentic tokens -/

/-- The token was signed with the secret: its header names one of the three algorithms, its
signature is the written keyed hash of all that stands in front of it, and its payload says
`claims`. -/
structure Authentic (secret : Bytes) (token : String) (claims : Claims) : Prop where
  hasSecret : secret ≠ []
  signed : ∃ header payload document a,
    token = header ++ "." ++ payload ++ "." ++
      Base64.encode Base64.urlSafe (Hmac.mac a.hash secret (utf8 (header ++ "." ++ payload))) ∧
    readPart header = .ok document ∧ headerAlgorithm? document = some (some a) ∧
    readClaims payload = .ok claims

/-- An authentic token of a header and a payload has the one signature of these. -/
theorem Authentic.sig_eq (h : Authentic secret (header ++ "." ++ payload ++ "." ++ sig) claims) :
    ∃ document a, readPart header = .ok document ∧ headerAlgorithm? document = some (some a) ∧
      sig = signature a secret (header ++ "." ++ payload) := by
  obtain ⟨-, header', payload', document, a, same, readHeader, named, readPayload⟩ := h
  have inHeader := dot_notMem_of_readPart readHeader
  have inPayload := dot_notMem_of_readClaims readPayload
  have inSignature := dot_notMem_encode (Hmac.mac a.hash secret (utf8 (header' ++ "." ++ payload')))
  -- The parts that were read have no dots, so there are no others than the two that join them.
  have dots : (header ++ "." ++ payload ++ "." ++ sig).toList.count '.' = 2 := by
    simp [same, List.count_eq_zero.2 inHeader, List.count_eq_zero.2 inPayload,
      List.count_eq_zero.2 inSignature]
  have parts := tokenParts?_eq_some_iff.2 ⟨same, inPayload, inSignature⟩
  cases (tokenParts?_of_count dots).symm.trans parts
  exact ⟨document, a, readHeader, named, rfl⟩

/-- The outcome says that the signature is right: the token is accepted, or it only comes at the
wrong time. -/
def vouches : Except Error Claims → Bool
  | .ok _ | .error .expired | .error .notYetValid => true
  | .error _ => false

/-- Claims are judged by the time alone, unless their expiry is of no use. -/
theorem vouches_checkWindow :
    vouches ((checkWindow now claims).map fun _ => claims) = true ↔ 0 ≤ claims.expiresAt := by
  unfold checkWindow
  split
  · rename_i beforeEpoch
    exact ⟨nofun, fun epoch => absurd beforeEpoch (Int.not_lt.2 epoch)⟩
  · rename_i epoch
    refine ⟨fun _ => Int.not_lt.1 epoch, fun _ => ?_⟩
    split
    · rfl
    · split <;> rfl

/-- What is no outcome of a good signature is an error in other words. -/
theorem exists_of_vouches_eq_false {outcome : Except Error Claims} (h : vouches outcome = false) :
    ∃ e, outcome = .error e ∧ e ≠ .expired ∧ e ≠ .notYetValid := by
  cases outcome with
  | ok claims => cases h
  | error e =>
      refine ⟨e, rfl, ?_, ?_⟩
      · rintro rfl
        cases h
      · rintro rfl
        cases h

/-- An authentic token is judged by its window. -/
theorem Authentic.verify_eq (h : Authentic secret token claims) (now : Time) :
    verify secret now token = (checkWindow now claims).map fun _ => claims := by
  obtain ⟨given, header, payload, document, a, same, readHeader, named, readPayload⟩ := h
  have hasSecret : secret.isEmpty = false := by simpa using given
  have parts := tokenParts?_eq_some_iff.2 ⟨same, dot_notMem_of_readClaims readPayload,
    dot_notMem_encode _⟩
  rw [verify, hasSecret, parts]
  simp only [readHeader, named, readPayload, bind, Except.bind]
  rw [if_neg Bool.false_ne_true, if_neg (by simp [signature])]
  cases checkWindow now claims <;> rfl

/-- An authentic token says one thing only. -/
theorem Authentic.unique {claims' : Claims} (h : Authentic secret token claims)
    (h' : Authentic secret token claims') : claims = claims' := by
  obtain ⟨-, header, payload, document, a, same, -, -, readPayload⟩ := h
  obtain ⟨-, header', payload', document', a', same', -, -, readPayload'⟩ := h'
  have parts := tokenParts?_eq_some_iff.2 ⟨same, dot_notMem_of_readClaims readPayload,
    dot_notMem_encode _⟩
  have parts' := tokenParts?_eq_some_iff.2 ⟨same', dot_notMem_of_readClaims readPayload',
    dot_notMem_encode _⟩
  obtain rfl : payload = payload' :=
    congrArg (fun p => p.2.1) (Option.some.inj (parts.symm.trans parts'))
  exact Except.ok.inj (readPayload.symm.trans readPayload')

/-- A part that cannot be read is malformed. -/
theorem readPart_error {e : Error} (h : readPart part = .error e) :
    ∃ cause, e = .malformed cause := by
  unfold readPart at h
  split at h
  · cases h
    exact ⟨_, rfl⟩
  · split at h
    · cases h
      exact ⟨_, rfl⟩
    · cases h

theorem readClaims_error {e : Error} (h : readClaims part = .error e) :
    ∃ cause, e = .malformed cause := by
  unfold readClaims at h
  cases read : readPart part with
  | error e' =>
      rw [read] at h
      cases h
      exact readPart_error read
  | ok v =>
      rw [read] at h
      simp only [bind, Except.bind] at h
      split at h
      · cases h
      · cases h
        exact ⟨_, rfl⟩

/-- An outcome that says that the signature is right comes from a part that could be read. -/
theorem exists_of_vouches_bind {α : Type} {read : Except Error α} {f : α → Except Error Claims}
    (malformed : ∀ e, read = .error e → ∃ cause, e = .malformed cause)
    (h : vouches (read >>= f) = true) : ∃ v, read = .ok v ∧ vouches (f v) = true := by
  cases read with
  | error e =>
      obtain ⟨cause, rfl⟩ := malformed e rfl
      cases h
  | ok v => exact ⟨v, rfl, h⟩

/-- Only of an authentic token it is said that the signature is right. -/
theorem authentic_of_vouches (h : vouches (verify secret now token) = true) :
    ∃ claims, Authentic secret token claims := by
  unfold verify at h
  cases empty : secret.isEmpty with
  | true =>
      rw [empty] at h
      cases h
  | false =>
      rw [empty, if_neg Bool.false_ne_true] at h
      split at h
      · rename_i header payload sig parts
        obtain ⟨same, -, -⟩ := tokenParts?_eq_some_iff.1 parts
        obtain ⟨document, readHeader, h⟩ := exists_of_vouches_bind (fun _ => readPart_error) h
        split at h
        · rename_i named
          split at h
          · rename_i a
            split at h
            · cases h
            · rename_i signed
              obtain ⟨claims, readPayload, -⟩ := exists_of_vouches_bind (fun _ => readClaims_error) h
              exact ⟨claims, by simpa using empty, header, payload, document, a,
                by rw [same, ← Classical.not_not.1 signed]; rfl, readHeader, named, readPayload⟩
          · cases h
        · cases h
      · cases h

/-- A token that is accepted is authentic. -/
theorem authentic_of_verify (h : verify secret now token = .ok claims) :
    Authentic secret token claims := by
  obtain ⟨read, authentic⟩ := authentic_of_vouches (by rw [h]; rfl)
  rw [authentic.verify_eq] at h
  cases window : checkWindow now read with
  | error e =>
      rw [window] at h
      cases h
  | ok _ =>
      rw [window] at h
      obtain rfl := Except.ok.inj h
      exact authentic

/-! ## Verification of what was signed -/

/-- A token that was signed is authentic. -/
theorem authentic_of_sign (h : sign a secret claims = .ok token) (timely : claims.IsTimely) :
    Authentic secret token claims := by
  have given := secret_ne_nil_of_sign h
  rw [sign, given] at h
  obtain rfl := Except.ok.inj h
  exact ⟨by simpa using given, _, _, _, a, rfl, readPart_header a, headerAlgorithm?_header a,
    readClaims_encodePart timely⟩

/-- Everything can be signed with a secret.  The token is good for just its own claims within their
window, and outside of it, it is told which end was missed; and claims are read back from the text
that they are written as.  The clock does not show times before the epoch. -/
theorem verify_own_claims (a : Algorithm) {secret : Bytes} {claims : Claims} (given : secret ≠ [])
    (timely : claims.IsTimely) :
    (Json.parseBytes? (utf8 claims.toJson.render)).bind Claims.ofJson? = some claims ∧
    ∃ token, sign a secret claims = .ok token ∧ ∀ now : Nat,
      (0 ≤ claims.expiresAt → now ≤ claims.expiresAt → claims.notBefore ≤ now →
        verify secret now token = .ok claims) ∧
      (0 ≤ claims.expiresAt → claims.expiresAt < now →
        verify secret now token = .error .expired) ∧
      (0 ≤ claims.expiresAt → now ≤ claims.expiresAt → now < claims.notBefore →
        verify secret now token = .error .notYetValid) ∧
      (claims.expiresAt < 0 →
        verify secret now token = .error (.malformed (.claim "exp"))) := by
  obtain ⟨token, signed⟩ := exists_sign (a := a) (List.isEmpty_eq_false_iff.2 given) claims
  refine ⟨?_, token, signed, fun now => ?_⟩
  · rw [Json.parseBytes?_render (Claims.isDocument_toJson timely), Option.bind_some]
    exact Claims.ofJson?_toJson timely
  · rw [verify_sign signed timely]
    have epoch : (0 : Int) ≤ now := Int.natCast_nonneg now
    unfold checkWindow
    refine ⟨fun written alive begun => ?_, fun written expired => ?_,
      fun written alive early => ?_, fun beforeEpoch => ?_⟩
    · rw [if_neg (Int.not_lt.2 written), if_neg (Int.not_lt.2 alive),
        if_neg fun h => absurd h.2 (Int.not_lt.2 begun)]
      rfl
    · rw [if_neg (Int.not_lt.2 written), if_pos expired]
      rfl
    · rw [if_neg (Int.not_lt.2 written), if_neg (Int.not_lt.2 alive),
        if_pos ⟨Int.le_trans epoch (Int.le_of_lt early), early⟩]
      rfl
    · rw [if_pos beforeEpoch]
      rfl

/-- Claims of a guest, with a part for this service that says nothing but its version. -/
def guestClaims : Claims where
  audience := ""
  issuer := "gatehouse"
  id := "t-1"
  issuedAt := 10
  notBefore := 20
  expiresAt := 30
  subject := "u-guest"
  name := "güest \"one\""
  displayName := ""
  email := ""
  scopes := [.access]
  metadata := some ⟨currentVersion, none, some ⟨[]⟩, none⟩

theorem guestClaims_isTimely : guestClaims.IsTimely :=
  ⟨by decide, by decide, by decide⟩

theorem guestClaims_verified :
    ([1] : Bytes) ≠ [] ∧ guestClaims.IsTimely ∧
      ∃ token, sign .hs512 [1] guestClaims = .ok token ∧
        verify [1] 25 token = .ok guestClaims ∧ verify [1] 31 token = .error .expired ∧
        verify [1] 19 token = .error .notYetValid := by
  obtain ⟨-, token, signed, verdict⟩ :=
    verify_own_claims .hs512 (nofun : ([1] : Bytes) ≠ []) guestClaims_isTimely
  exact ⟨nofun, guestClaims_isTimely, token, signed,
    (verdict 25).1 (by decide) (by decide) (by decide), (verdict 31).2.1 (by decide) (by decide),
    (verdict 19).2.2.1 (by decide) (by decide) (by decide)⟩

/-! ## What gets past the signature -/

/-- Only authentic tokens get past the signature, and of these all whose expiry can be used; a token
with another signature for the same header and payload does not; and without a secret none does. -/
theorem verify_vouches_iff (secret : Bytes) (token : String) :
    (∀ now, vouches (verify secret now token) = true ↔
      ∃ claims, Authentic secret token claims ∧ 0 ≤ claims.expiresAt) ∧
    (∀ header payload sig other now later, token = header ++ "." ++ payload ++ "." ++ sig →
      vouches (verify secret now token) = true → other ≠ sig →
      ∃ e, verify secret later (header ++ "." ++ payload ++ "." ++ other) = .error e ∧
        e ≠ .expired ∧ e ≠ .notYetValid) ∧
    (secret = [] → ∀ now, verify secret now token = .error .missingSecret) := by
  refine ⟨fun now => ⟨fun h => ?_, ?_⟩, ?_, ?_⟩
  · obtain ⟨claims, authentic⟩ := authentic_of_vouches h
    rw [authentic.verify_eq] at h
    exact ⟨claims, authentic, vouches_checkWindow.1 h⟩
  · rintro ⟨claims, authentic, epoch⟩
    rw [authentic.verify_eq]
    exact vouches_checkWindow.2 epoch
  · rintro header payload sig other now later rfl accepted different
    refine exists_of_vouches_eq_false (Bool.eq_false_iff.2 fun again => different ?_)
    obtain ⟨claims, authentic⟩ := authentic_of_vouches accepted
    obtain ⟨claims', authentic'⟩ := authentic_of_vouches again
    obtain ⟨document, a, readHeader, named, rfl⟩ := authentic.sig_eq
    obtain ⟨document', a', readHeader', named', rfl⟩ := authentic'.sig_eq
    cases readHeader.symm.trans readHeader'
    cases named.symm.trans named'
    rfl
  · rintro rfl now
    rfl

/-- The token of the guest is good for its claims, and with another signature for nothing. -/
theorem guestToken_unforged :
    ∃ token header payload sig, sign .hs512 [1] guestClaims = .ok token ∧
      token = header ++ "." ++ payload ++ "." ++ sig ∧ vouches (verify [1] 25 token) = true ∧
      ∃ e, verify [1] 25 (header ++ "." ++ payload ++ "." ++ "A") = .error e ∧
        e ≠ .expired ∧ e ≠ .notYetValid := by
  obtain ⟨token, signed⟩ :=
    exists_sign (a := .hs512) (rfl : ([1] : Bytes).isEmpty = false) guestClaims
  obtain ⟨same, -, -⟩ := tokenParts?_eq_some_iff.1 (tokenParts?_of_sign signed)
  have authentic := authentic_of_sign signed guestClaims_isTimely
  have accepted := ((verify_vouches_iff [1] token).1 25).2 ⟨_, authentic, by decide⟩
  refine ⟨token, _, _, _, signed, same, accepted,
    (verify_vouches_iff [1] token).2.1 _ _ _ "A" 25 25 same accepted fun written => ?_⟩
  have unreadable : Base64.decode? Base64.urlSafe "A" = none := rfl
  have read := Base64.decode?_encode Base64.faithful_urlSafe
    (Hmac.mac Algorithm.hs512.hash [1] (utf8 (signedMessage .hs512 guestClaims)))
  rw [← signature, ← written] at read
  cases unreadable.symm.trans read

end Gatehouse.Token
