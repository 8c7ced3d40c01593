import Gatehouse.Access.Session
import Gatehouse.Proofs.Access.Ledger
import Gatehouse.Proofs.Token.Issuer

/-!
# Sessions - Against the store in memory

What it takes for a token to be accepted, for a refresh token to be traded and for a session to end,
when the store is the one in memory.

Main definition: `Service.Traded`, how a refresh that ends well came to its session.

Main results:

- Theorem `runOn_authenticateSigned`: who is accepted with a signed token, and why nobody else is.
- Theorem `refresh_traded`: what a refresh that ends well was given, what it found and what it
  issued.
- Theorem `refresh_keeps` and theorem `logout_memory`: what becomes of the store.
-/

namespace Gatehouse.Store.Memory

/-- The user with an id, unless the user is deleted. -/
def activeUser? (m : Memory) (userId : String) : Option User :=
  ((m.users.find? userId).map m.withEmail).filter (!·.deleted)

/-- An active user is read from a record. -/
theorem exists_of_activeUser? {m : Memory} {userId : String} {user : User}
    (h : m.activeUser? userId = some user) :
    ∃ record, user = m.withEmail record ∧ record.id = userId ∧
      m.users.find? userId = some record ∧ record.deleted = false := by
  obtain ⟨hmap, active⟩ := Option.filter_eq_some_iff.1 h
  obtain ⟨record, stored, rfl⟩ := Option.map_eq_some_iff.1 hmap
  exact ⟨record, rfl, Register.nameOf_of_find? stored, stored,
    by simpa [Memory.withEmail] using active⟩

end Gatehouse.Store.Memory

namespace Gatehouse.Access

open Http (Headers)
open Store (Asking Memory Role User)
open Token (Claims Time)

variable {s : Service} {m m' : Memory} {o : Occasion} {now : Time} {headers out out' : Headers}

/-! ## Looking up -/

theorem Flow.runOn_activeUser? (userId : String) :
    (Flow.activeUser? userId).runOn m = (.ok (m.activeUser? userId), m) := by
  have found : (Flow.lookup? (Asking.userById userId)).runOn m =
      (.ok ((m.users.find? userId).map m.withEmail), m) := Flow.runOn_lookup? rfl
  exact Flow.runOn_bind_ok found

theorem Flow.runOn_activeUser (userId : String) :
    (Flow.activeUser userId).runOn m =
      (match m.activeUser? userId with
        | some user => .ok user
        | none => .error .unauthenticated, m) := by
  rw [Flow.activeUser, Flow.runOn_bind_ok (Flow.runOn_activeUser? userId)]
  cases m.activeUser? userId <;> rfl

/-- A user must be there and must not be deleted. -/
theorem Flow.activeUser_ok {userId : String} {user : User}
    (h : (Flow.activeUser userId).runOn m = (.ok user, m')) :
    m.activeUser? userId = some user ∧ m' = m := by
  rw [Flow.runOn_activeUser] at h
  cases hu : m.activeUser? userId with
  | none =>
      rw [hu] at h
      cases h
  | some found =>
      rw [hu] at h
      cases h
      exact ⟨rfl, rfl⟩

theorem Flow.runOn_rolesOfUser (userId : String) :
    (Flow.fetch (Asking.rolesOfUser userId)).runOn m =
      (.ok (m.rolesOf (m.assignments.find? userId)), m) :=
  Flow.runOn_fetch rfl

theorem Flow.activeUser_keeps {γ : Type} (part : Memory → γ) (userId : String) :
    (Flow.activeUser userId).Keeps part := by
  refine Flow.Keeps.bind (Flow.Keeps.bind (Flow.keeps_lookup? fun _ => rfl) fun _ =>
    Flow.keeps_pure _) fun found => ?_
  cases found with
  | none => exact Flow.keeps_throw _
  | some user => exact Flow.keeps_pure _

namespace Service

/-! ## Authentication -/

/-- A signed token is accepted when it is verified, is for access and is not rejected. -/
theorem runOn_authenticateSigned (s : Service) (now : Time) (token : String) :
    (s.authenticateSigned now token).runOn m =
      (match Token.verify s.config.key now token with
        | .error e => .error (.ofToken e)
        | .ok claims =>
          if claims.hasScope .access && !m.rejects claims then .ok ⟨claims, .session⟩
          else .error .unauthenticated, m) := by
  unfold authenticateSigned
  cases Token.verify s.config.key now token with
  | error e => rfl
  | ok claims =>
      have asked : (Flow.fetch (Ledger.isRejected claims)).runOn m =
          (.ok (m.rejects claims), m) := Flow.runOn_fetch (Ledger.runOn_isRejected claims)
      cases hs : claims.hasScope .access with
      | false =>
          simp only [hs]
          rfl
      | true =>
          simp only [hs, Bool.not_true, Bool.false_eq_true, if_false, Bool.true_and]
          rw [Flow.runOn_bind_ok asked]
          cases m.rejects claims <;> rfl

/-- Whoever is accepted with a signed token has its claims, and the token is not rejected. -/
theorem authenticateSigned_ok {token : String} {p : Principal}
    (h : ((s.authenticateSigned now token).runOn m).1 = .ok p) :
    ∃ claims, Token.verify s.config.key now token = .ok claims ∧ claims.hasScope .access = true ∧
      m.rejects claims = false ∧ p = ⟨claims, .session⟩ := by
  rw [runOn_authenticateSigned] at h
  cases hv : Token.verify s.config.key now token with
  | error e => simp [hv] at h
  | ok claims =>
      simp only [hv] at h
      split at h
      · rename_i accepted
        obtain ⟨scope, kept⟩ := Bool.and_eq_true_iff.1 accepted
        exact ⟨claims, rfl, scope, by simpa using kept, (Except.ok.inj h).symm⟩
      · cases h

/-- Authentication changes nothing in the store. -/
theorem authenticateHeaders_keeps {γ : Type} (part : Memory → γ) (now : Time)
    (headers : Headers) : (s.authenticateHeaders now headers).Keeps part := by
  unfold authenticateHeaders
  cases PresentedToken.ofHeaders? headers s.config.accessCookie with
  | none => exact Flow.keeps_throw _
  | some presented =>
      cases presented with
      | signed token =>
          intro m
          exact congrArg part (congrArg Prod.snd (runOn_authenticateSigned s now token))
      | api token =>
          refine Flow.Keeps.bind (Flow.keeps_lookup? fun _ => rfl) fun found => ?_
          cases found with
          | none => exact Flow.keeps_throw _
          | some stored =>
              exact Flow.Keeps.guard (Flow.Keeps.bind (Flow.activeUser_keeps part _) fun user =>
                Flow.Keeps.bind (Flow.keeps_fetch fun _ => rfl) fun roles => Flow.keeps_pure _)

/-! ## Trading refresh tokens -/

/-- How a refresh that ends well came to its session: what it was given, what it found and what it
issued. -/
structure Traded (s : Service) (o : Occasion) (headers : Headers) (requestedTtl : Nat) (m : Memory)
    (token : String) (claims : Claims) (user : User) (roles : List Role) (session : Session) :
    Prop where
  given : Http.Cookie.find? headers s.config.refreshCookie = some token
  verified : Token.verify s.config.key o.now token = .ok claims
  scope : claims.hasScope .refresh = true
  kept : m.rejects claims = false
  active : m.activeUser? claims.subject = some user
  owner : session.userId = user.id
  kind : session.kind = claims.loginKind?.getD .password
  single : session.refreshToken = none
  signed : Token.sign s.config.algorithm s.config.key (Token.accessClaims s.config o.now o.accessId
    user roles requestedTtl (some claims.id) session.kind) = .ok session.accessToken.token

/-- How a refresh that ends well came to its session. -/
theorem refresh_traded {requestedTtl : Nat} {redirect : Option String} {session : Session}
    (h : (s.refresh o headers requestedTtl redirect).runOn out m = (.ok session, out', m')) :
    ∃ token claims user roles,
      s.Traded o headers requestedTtl m token claims user roles session := by
  unfold refresh refreshSigned at h
  cases hc : Http.Cookie.find? headers s.config.refreshCookie with
  | none =>
      rw [hc] at h
      cases h
  | some token =>
      simp only [hc] at h
      cases hv : Token.verify s.config.key o.now token with
      | error e =>
          rw [hv] at h
          cases h
      | ok claims =>
          simp only [hv] at h
          cases hs : claims.hasScope .refresh with
          | false =>
              simp only [hs] at h
              cases h
          | true =>
              simp only [hs, Bool.not_true, Bool.false_eq_true, if_false] at h
              obtain ⟨rejected, m₁, asked, h₁⟩ := CookieFlow.exists_of_withCookies_bind h
              rw [Flow.runOn_fetch (Ledger.runOn_isRejected claims)] at asked
              cases asked
              cases kept : m.rejects claims with
              | true =>
                  rw [kept] at h₁
                  cases h₁
              | false =>
                  simp only [kept, Bool.false_eq_true, if_false] at h₁
                  obtain ⟨user, m₂, found, h₂⟩ := CookieFlow.exists_of_withCookies_bind h₁
                  obtain ⟨active, rfl⟩ := Flow.activeUser_ok found
                  obtain ⟨roles, m₃, -, h₃⟩ := CookieFlow.exists_of_withCookies_bind h₂
                  obtain ⟨issued, out₁, hissue, h₄⟩ := CookieFlow.exists_of_issuing_bind h₃
                  cases h₄
                  exact ⟨token, claims, user, roles, hc, hv, hs, kept, active, rfl, rfl, rfl,
                    (Token.issueAccess_ok hissue).1⟩

/-- What a refresh that ends well was given and what it issued. -/
theorem refresh_ok {requestedTtl : Nat} {redirect : Option String} {session : Session}
    (h : (s.refresh o headers requestedTtl redirect).runOn out m = (.ok session, out', m')) :
    ∃ token claims user roles kind,
      Http.Cookie.find? headers s.config.refreshCookie = some token ∧
      Token.verify s.config.key o.now token = .ok claims ∧
      claims.hasScope .refresh = true ∧ m.rejects claims = false ∧
      m.activeUser? claims.subject = some user ∧
      Token.sign s.config.algorithm s.config.key (Token.accessClaims s.config o.now o.accessId user
        roles requestedTtl (some claims.id) kind) = .ok session.accessToken.token := by
  obtain ⟨token, claims, user, roles, traded⟩ := refresh_traded h
  exact ⟨token, claims, user, roles, session.kind, traded.given, traded.verified, traded.scope,
    traded.kept, traded.active, traded.signed⟩

/-- A refresh changes nothing in the store. -/
theorem refresh_keeps {γ : Type} (part : Memory → γ) (requestedTtl : Nat)
    (redirect : Option String) :
    (s.refresh o headers requestedTtl redirect).Keeps part := by
  unfold refresh refreshSigned
  split
  · exact CookieFlow.keeps_throw _
  · split
    · exact CookieFlow.keeps_throw _
    · refine CookieFlow.Keeps.guard (CookieFlow.Keeps.bind
        (CookieFlow.keeps_withCookies (Flow.keeps_fetch fun m => ?_)) fun rejected =>
          CookieFlow.Keeps.guard (CookieFlow.Keeps.bind
            (CookieFlow.keeps_withCookies (Flow.activeUser_keeps part _)) fun user =>
              CookieFlow.Keeps.bind
                (CookieFlow.keeps_withCookies (Flow.keeps_fetch fun _ => rfl)) fun roles =>
                  CookieFlow.Keeps.bind (CookieFlow.keeps_issuing _) fun issued =>
                    CookieFlow.keeps_pure _))
      rw [Ledger.runOn_isRejected]

/-! ## Ending sessions -/

/-- Ending a session puts its rows into the ledger and always works. -/
theorem runOn_endSession (claims : Claims) :
    CookieFlow.runOn (Flow.withCookies (Flow.fetch (Ledger.endSession s.config claims))) out m =
      (.ok (), out, m.withEnded s.config claims) := by
  rw [CookieFlow.runOn_withCookies, Flow.runOn_fetch (Ledger.runOn_endSession s.config claims)]

/-- Whoever does not come with an API token has ended the session, even where the cookies cannot be
dropped. -/
theorem logout_memory (p : Principal) :
    ((s.logout p).runOn out m).2.2 =
      if p.isApiToken then m else m.withEnded s.config p.claims := by
  unfold logout
  cases p.isApiToken with
  | true => rfl
  | false =>
      simp only [Bool.false_eq_true, if_false]
      rw [CookieFlow.runOn_bind_ok (runOn_endSession p.claims)]
      exact CookieFlow.issuing_memory _ _ _

end Service

end Gatehouse.Access
