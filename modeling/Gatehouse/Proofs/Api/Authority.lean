import Gatehouse.Proofs.Api.Effect

/-!
# The application - The authority of a caller

A request changes the store at most in what belongs to its caller: the rows of the ledger that end the
session that it came with, the API tokens of its user, and a recovery code of the user whom a token of
the password step names.  Each fact is a case analysis of what requests do, so none of them looks at an
endpoint again.

Main definitions:

- `Endpoint.onlyReads`: the endpoints that change nothing.
- `WithinAuthority`: all that may differ between the stores before and after a request.

Main result: theorem `App.serve_withinAuthority`: every request keeps within the authority of its
caller.
-/

namespace Gatehouse.Api

open Access (Occasion Service)
open Store (Memory)

variable {s : Service} {o : Occasion} {r : Request} {m m' : Memory} {endpoint : Endpoint}

/-! ## Endpoints -/

/-- Does the endpoint only read when it is asked with the method? -/
def Endpoint.onlyReads (method : String) : Endpoint → Bool
  | .health | .refresh | .introspect | .forwardAuth => true
  | .apiTokens => method != "POST"
  | .login | .logout | .apiToken _ => false

/-- An endpoint answers only the methods that it takes. -/
theorem Request.method_of_endpoint? (h : r.endpoint? = some endpoint) :
    r.method ∈ endpoint.methods := by
  obtain ⟨-, accepted⟩ := Option.filter_eq_some_iff.1 h
  simp only [Bool.and_eq_true, List.contains_iff_mem] at accepted
  exact accepted.1

namespace Effect

/-! ## What a request may change -/

/-- The ledger changes only for the session of the caller, on login and logout. -/
theorem ledger (h : Effect s o r m m') {name : String}
    (changed : m'.rejections.find? name ≠ m.rejections.find? name) :
    (r.endpoint? = some .login ∨ r.endpoint? = some .logout) ∧
      ∃ claims, r.caller? s o.now m = some ⟨claims, .session⟩ ∧
        (name = claims.id ∨ claims.parent? = some name) := by
  cases h with
  | nothing => exact absurd rfl changed
  | loggedOut endpoint caller =>
      exact ⟨.inr endpoint, _, caller, Memory.named_of_withEnded_ne changed⟩
  | loggedIn endpoint =>
      exact ⟨.inl endpoint, Service.exists_of_storeAfterCurrent_ne changed⟩
  | redeemed endpoint asked spends =>
      rw [Memory.takeRecoveryCode_snd] at changed
      exact ⟨.inl endpoint, Service.exists_of_storeAfterCurrent_ne changed⟩
  | made endpoint method caller session future chosen => exact absurd rfl changed
  | deleted endpoint named caller owns => exact absurd rfl changed

/-- A token changes only when its user makes it or deletes it. -/
theorem apiTokens (h : Effect s o r m m') {id : String}
    (changed : m'.apiTokens.find? id ≠ m.apiTokens.find? id ∨
      m'.apiTokenRoles.find? id ≠ m.apiTokenRoles.find? id) :
    ∃ p, r.caller? s o.now m = some p ∧
      ((r.endpoint? = some .apiTokens ∧ r.method = "POST" ∧ p.isApiToken = false ∧
          id = o.apiTokenId ∧ m'.ownsApiToken p.userId id = true) ∨
        ((∃ escapedId, r.endpoint? = some (.apiToken escapedId)) ∧ r.method = "DELETE" ∧
          m.ownsApiToken p.userId id = true ∧ m'.apiTokens.find? id = none ∧
          m'.apiTokenRoles.find? id = none)) := by
  cases h with
  | nothing => simp at changed
  | loggedOut endpoint caller =>
      rw [Memory.withEnded_eq] at changed
      simp at changed
  | loggedIn endpoint =>
      rw [Service.storeAfterCurrent_eq] at changed
      simp at changed
  | redeemed endpoint asked spends =>
      rw [Memory.takeRecoveryCode_snd, Service.storeAfterCurrent_eq] at changed
      simp at changed
  | @made p wanted granted expiresAt description endpoint method caller session future chosen =>
      refine ⟨p, caller, .inl ⟨endpoint, method, session, ?_⟩⟩
      rw [Memory.find?_withApiToken, Memory.find?_withApiToken_roles] at changed
      by_cases new : id = o.apiTokenId
      · refine ⟨new, Memory.ownsApiToken_iff.2 ⟨p.newRecord o expiresAt description, ?_, rfl⟩⟩
        rw [Memory.find?_withApiToken]
        exact if_pos new
      · have other : id ≠ (p.newRecord o expiresAt description).id := new
        simp [if_neg other] at changed
  | @deleted p escapedId tokenId endpoint named caller owns =>
      have method : r.method = "DELETE" := by
        simpa [Endpoint.methods] using Request.method_of_endpoint? endpoint
      refine ⟨p, caller, .inr ⟨⟨escapedId, endpoint⟩, method, ?_⟩⟩
      rw [Memory.find?_withoutApiToken, Memory.find?_withoutApiToken_roles] at changed ⊢
      by_cases gone : id = tokenId
      · subst gone
        exact ⟨owns, if_pos rfl, if_pos rfl⟩
      · simp [if_neg gone] at changed

/-- A recovery code is taken only by a login that presents a token of the password step. -/
theorem recoveryCodes (h : Effect s o r m m') :
    m'.recoveryCodes = m.recoveryCodes ∨
      ∃ request userId digest, r.endpoint? = some .login ∧ r.login? = some request ∧
        s.SpendsCode o.now m request userId digest ∧
        m'.recoveryCodes = (m.takeRecoveryCode userId digest).2.recoveryCodes := by
  cases h with
  | nothing => exact .inl rfl
  | loggedOut endpoint caller =>
      left
      rw [Memory.withEnded_eq]
  | loggedIn endpoint =>
      left
      rw [Service.storeAfterCurrent_eq]
  | @redeemed request userId digest endpoint asked spends =>
      refine .inr ⟨request, userId, digest, endpoint, asked, spends, ?_⟩
      rw [Service.storeAfterCurrent_eq]
      unfold Memory.takeRecoveryCode
      simp only
      split <;> rfl
  | made endpoint method caller session future chosen => exact .inl rfl
  | deleted endpoint named caller owns => exact .inl rfl

/-- Whoever is not accepted changes nothing but recovery codes. -/
theorem of_no_caller (h : Effect s o r m m') (stranger : r.caller? s o.now m = none) :
    m' = { m with recoveryCodes := m'.recoveryCodes } := by
  have same : s.storeAfterCurrent m (r.caller? s o.now m) = m := by
    rw [stranger]
    rfl
  cases h with
  | nothing => rfl
  | loggedOut endpoint caller => cases stranger.symm.trans caller
  | loggedIn endpoint => rw [same]
  | redeemed endpoint asked spends =>
      rw [same]
      exact Memory.takeRecoveryCode_snd _ _ _
  | made endpoint method caller session future chosen => cases stranger.symm.trans caller
  | deleted endpoint named caller owns => cases stranger.symm.trans caller

/-- An endpoint that only reads changes nothing, and neither does a request that none answers. -/
theorem of_onlyReads (h : Effect s o r m m')
    (reads : ∀ endpoint, r.endpoint? = some endpoint → endpoint.onlyReads r.method = true) :
    m' = m := by
  cases h with
  | nothing => rfl
  | loggedOut endpoint caller => cases reads _ endpoint
  | loggedIn endpoint => cases reads _ endpoint
  | redeemed endpoint asked spends => cases reads _ endpoint
  | made endpoint method caller session future chosen =>
      have onlyReads := reads _ endpoint
      rw [method] at onlyReads
      cases onlyReads
  | deleted endpoint named caller owns => cases reads _ endpoint

end Effect

/-! ## The authority of a caller -/

/-- The store `m'` after a request differs from the store `m` before it at most in what the caller may
change. -/
structure WithinAuthority (s : Service) (o : Occasion) (r : Request) (m m' : Memory) : Prop where
  /-- Users, addresses, roles, assignments and permissions are as they were. -/
  records : m.SameRecords m'
  /-- A row of the ledger changes only on login and logout, under the name of the signed token for
  access that the request presents or under that of its parent. -/
  ledger : ∀ name, m'.rejections.find? name ≠ m.rejections.find? name →
    (r.endpoint? = some .login ∨ r.endpoint? = some .logout) ∧ r.method = "POST" ∧
    ∃ token claims, r.caller? s o.now m = some ⟨claims, .session⟩ ∧
      Access.PresentedToken.ofHeaders? r.headers s.config.accessCookie = some (.signed token) ∧
      Token.verify s.config.key o.now token = .ok claims ∧ claims.hasScope .access = true ∧
      (name = claims.id ∨ claims.parent? = some name)
  /-- A token or its list of roles changes only when the caller makes it, under the new id that the
  request is given, or deletes it, and it is a token of the caller. -/
  apiTokens : ∀ id, m'.apiTokens.find? id ≠ m.apiTokens.find? id ∨
      m'.apiTokenRoles.find? id ≠ m.apiTokenRoles.find? id →
    ∃ p, r.caller? s o.now m = some p ∧
      ((r.endpoint? = some .apiTokens ∧ r.method = "POST" ∧ p.isApiToken = false ∧
          id = o.apiTokenId ∧ m'.ownsApiToken p.userId id = true) ∨
        ((∃ escapedId, r.endpoint? = some (.apiToken escapedId)) ∧ r.method = "DELETE" ∧
          m.ownsApiToken p.userId id = true ∧ m'.apiTokens.find? id = none ∧
          m'.apiTokenRoles.find? id = none))
  /-- Where the new id is not in use, the tokens of everybody else and their lists of roles are as
  they were. -/
  others : m.apiTokens.find? o.apiTokenId = none → ∀ record,
    (∀ p, r.caller? s o.now m = some p → record.userId ≠ p.userId) →
    (record ∈ m'.apiTokens.data ↔ record ∈ m.apiTokens.data) ∧
    (record ∈ m.apiTokens.data →
      m'.apiTokenRoles.find? record.id = m.apiTokenRoles.find? record.id)
  /-- One recovery code is taken, from the user whom a good token of the password step in the body of
  a login names, or all are left. -/
  recoveryCodes : m'.recoveryCodes = m.recoveryCodes ∨
    ∃ request userId digest, r.endpoint? = some .login ∧ r.method = "POST" ∧
      r.login? = some request ∧ s.SpendsCode o.now m request userId digest ∧
      m'.recoveryCodes = (m.takeRecoveryCode userId digest).2.recoveryCodes ∧
      ∀ user code, code ∈ m'.recoveryDigests user ↔
        code ∈ m.recoveryDigests user ∧ (user, code) ≠ (userId, digest)
  /-- Whoever presents no accepted credential changes nothing but recovery codes. -/
  stranger : r.caller? s o.now m = none → m' = { m with recoveryCodes := m'.recoveryCodes }
  /-- Refreshing, introspecting, listing, asking for the health and deciding about delegated requests
  change nothing, and neither does a request that no endpoint answers. -/
  reading : (∀ endpoint, r.endpoint? = some endpoint → endpoint.onlyReads r.method = true) →
    m' = m

/-- Logins and logouts are posted. -/
theorem Request.method_of_session (h : r.endpoint? = some .login ∨ r.endpoint? = some .logout) :
    r.method = "POST" := by
  rcases h with endpoint | endpoint <;>
    simpa [Endpoint.methods] using Request.method_of_endpoint? endpoint

/-- Where the new id is not in use, the tokens of everybody but the caller and their lists of roles
are as they were. -/
theorem Effect.others (h : Effect s o r m m') (fresh : m.apiTokens.find? o.apiTokenId = none)
    {record : Store.ApiTokenRecord}
    (foreign : ∀ p, r.caller? s o.now m = some p → record.userId ≠ p.userId) :
    (record ∈ m'.apiTokens.data ↔ record ∈ m.apiTokens.data) ∧
      (record ∈ m.apiTokens.data →
        m'.apiTokenRoles.find? record.id = m.apiTokenRoles.find? record.id) := by
  rw [Register.mem_data_iff, Register.mem_data_iff]
  by_cases changed : m'.apiTokens.find? record.id ≠ m.apiTokens.find? record.id ∨
      m'.apiTokenRoles.find? record.id ≠ m.apiTokenRoles.find? record.id
  · obtain ⟨p, caller, made | deleted⟩ := h.apiTokens changed
    · obtain ⟨-, -, -, new, owns⟩ := made
      obtain ⟨stored, found, owner⟩ := Memory.ownsApiToken_iff.1 owns
      rw [new] at found ⊢
      rw [fresh, found]
      refine ⟨⟨fun same => ?_, nofun⟩, nofun⟩
      cases same
      exact absurd owner (foreign p caller)
    · obtain ⟨-, -, owns, gone, -⟩ := deleted
      obtain ⟨stored, found, owner⟩ := Memory.ownsApiToken_iff.1 owns
      have notOwn : some stored ≠ some record := by
        intro same
        cases same
        exact absurd owner (foreign p caller)
      rw [gone, found]
      exact ⟨⟨nofun, fun same => absurd same notOwn⟩, fun same => absurd same notOwn⟩
  · rw [not_or, not_not, not_not] at changed
    exact ⟨by rw [changed.1], fun _ => changed.2⟩

/-- Every request, whatever its path, method, header and body, keeps within the authority of its
caller, in every store. -/
theorem App.serve_withinAuthority (a : App) (o : Occasion) (freshId : String) (r : Request)
    (m : Memory) :
    WithinAuthority a.engine.service o r m (m.after (a.serve o freshId r)) := by
  have effect := a.effect_serve o freshId r m
  constructor
  case records => exact Memory.sameRecords_run _ m
  case ledger =>
    intro name changed
    obtain ⟨endpoint, claims, caller, named⟩ := effect.ledger changed
    have accepted := congrArg Prod.fst (Request.runOn_of_caller? caller)
    obtain ⟨token, presented, verified, scope⟩ := Service.signed_of_session accepted
    exact ⟨endpoint, Request.method_of_session endpoint, token, claims, caller, presented, verified,
      scope, named⟩
  case apiTokens => exact fun id changed => effect.apiTokens changed
  case others => exact fun fresh record foreign => effect.others fresh foreign
  case recoveryCodes =>
    rcases effect.recoveryCodes with kept | ⟨request, userId, digest, endpoint, asked, spends, taken⟩
    · exact .inl kept
    · refine .inr ⟨request, userId, digest, endpoint, Request.method_of_session (.inl endpoint),
        asked, spends, taken, fun user code => ?_⟩
      rw [← Memory.mem_recoveryDigests_taken, Memory.recoveryDigests, taken]
      rfl
  case stranger => exact effect.of_no_caller
  case reading => exact effect.of_onlyReads

end Gatehouse.Api
