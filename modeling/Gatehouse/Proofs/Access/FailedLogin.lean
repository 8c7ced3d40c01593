import Gatehouse.Proofs.Access.Credentials
import Gatehouse.Proofs.Credential.RecoveryCode
import Gatehouse.Proofs.Token.Cookies

/-!
# Login - What a failed login leaves behind

A step of a login can fail after its credential passed, when the cookies of the session cannot be
set.  A recovery code is used up by then, and the cookie of the refresh token may have been set
already.  In all other ways a step that fails leaves the store and the header as they were.

Main definitions:

- `EstablishEnds`: how the beginning of a session ends.
- `Redeems` and `BeginsSession`: steps that use up a recovery code, and steps that begin a session.

Main results:

- Theorem `Service.establish_ends`: the ways in which the beginning of a session ends.
- Theorem `Service.conclude_error_iff` and theorem `Service.conclude_error_headers_iff`: when a step
  fails for a user who passes, and when it leaves a cookie behind.
- Theorem `Service.failed_login_effects`: what a failed login leaves behind.
-/

namespace Gatehouse.Access

open Http (Headers)
open Store (Asking Memory Role User)
open Token (AccessSettable IssuedToken LoginKind RefreshSettable Time)

variable {s : Service} {m m' : Memory} {o : Occasion} {out out' : Headers}
  {request : LoginRequest} {user : User} {kind : LoginKind} {current : Option Principal}

/-! ## Sessions that begin or do not -/

/-- How the beginning of a session ends. -/
inductive EstablishEnds {α : Type} (s : Service) (request : LoginRequest) (out : Headers)
    (m : Memory) : Except Error α × Headers × Memory → Prop where
  /-- There is nothing to sign with. -/
  | unsigned (noSecret : s.config.key.isEmpty = true) (e : Error) :
      EstablishEnds s request out m (.error e, out, m)
  /-- The cookie of the refresh token, which comes first, cannot be set. -/
  | refreshUnset (secret : s.config.key.isEmpty = false) (wanted : request.withRefreshToken = true)
      (unsettable : ¬RefreshSettable s.config) (e : Error) :
      EstablishEnds s request out m (.error e, out, m)
  /-- The cookie of the access token cannot be set, and none was set before it. -/
  | accessUnset (secret : s.config.key.isEmpty = false)
      (unwanted : request.withRefreshToken = false) (unsettable : ¬AccessSettable s.config)
      (e : Error) : EstablishEnds s request out m (.error e, out, m)
  /-- The cookie of the access token cannot be set after that of the refresh token was. -/
  | refreshAlone (secret : s.config.key.isEmpty = false) (wanted : request.withRefreshToken = true)
      (settable : RefreshSettable s.config) (unsettable : ¬AccessSettable s.config) (e : Error)
      (value : Bytes) :
      EstablishEnds s request out m (.error e, out.append "set-cookie" value, m)
  | begun (secret : s.config.key.isEmpty = false) (access : AccessSettable s.config)
      (refresh : request.withRefreshToken = true → RefreshSettable s.config) (a : α)
      (out' : Headers) : EstablishEnds s request out m (.ok a, out', m)

namespace Service

/-- The cookies of the session that a step begins can be set. -/
def SessionSettable (s : Service) (request : LoginRequest) : Prop :=
  AccessSettable s.config ∧ (request.withRefreshToken = true → RefreshSettable s.config)

/-- With a secret, the last step of the beginning of a session ends well if the cookie of the access
token can be set. -/
theorem accessStep_ends (secret : s.config.key.isEmpty = false) (request : LoginRequest)
    (user : User) (kind : LoginKind) (roles : List Role) (refreshToken : Option IssuedToken)
    (headers : Headers) (m : Memory) :
    let step : CookieFlow Session := do
      let accessToken ← issuing <| Token.issueAccess s.config o.now o.accessId user roles
        request.requestedTtl (refreshToken.map (·.id)) kind true
      return ⟨user.id, kind, accessToken, refreshToken, s.redirectTarget request.redirect⟩
    (AccessSettable s.config ∧ ∃ session headers',
        step.runOn headers m = (.ok session, headers', m)) ∨
      (¬AccessSettable s.config ∧ ∃ e, step.runOn headers m = (.error e, headers, m)) := by
  intro step
  obtain ⟨token, signed⟩ := Token.exists_sign (a := s.config.algorithm) secret
    (Token.accessClaims s.config o.now o.accessId user roles request.requestedTtl
      (refreshToken.map (·.id)) kind)
  have run := Token.issue_withCookie_run signed (fun token =>
    Token.accessCookie s.config token (s.config.grantedTtl user.id roles request.requestedTtl))
    headers
  change (Token.issueAccess s.config o.now o.accessId user roles request.requestedTtl
    (refreshToken.map (·.id)) kind true).run headers = _ at run
  rcases Token.header?_accessCookie signed
    (s.config.grantedTtl user.id roles request.requestedTtl) with
    ⟨settable, value, made⟩ | ⟨unsettable, unmade⟩
  · rw [made] at run
    exact .inl ⟨settable, _, _, CookieFlow.runOn_issuing_bind run⟩
  · rw [unmade] at run
    refine .inr ⟨unsettable, .ofIssue .cookie, ?_⟩
    simp only [step]
    rw [CookieFlow.runOn_bind, CookieFlow.runOn_issuing, run]

/-- The ways in which the beginning of a session ends. -/
theorem establish_ends (s : Service) (o : Occasion) (request : LoginRequest) (user : User)
    (kind : LoginKind) (out : Headers) (m : Memory) :
    EstablishEnds s request out m ((s.establish o request user kind).runOn out m) := by
  unfold establish
  change EstablishEnds s request out m (CookieFlow.runOn
    (Flow.withCookies (Flow.fetch (Asking.rolesOfUser user.id)) >>= _) out m)
  rw [CookieFlow.runOn_withCookies_bind (Flow.runOn_rolesOfUser user.id)]
  generalize m.rolesOf (m.assignments.find? user.id) = roles
  simp only
  cases noSecret : s.config.key.isEmpty with
  | true =>
      have refused (x : Token.Issuing IssuedToken) (f : IssuedToken → CookieFlow Session)
          (run : x.run out = (.error (.token .missingSecret), out)) :
          EstablishEnds s request out m (CookieFlow.runOn (issuing x >>= f) out m) := by
        rw [CookieFlow.runOn_bind, CookieFlow.runOn_issuing, run]
        exact .unsigned noSecret _
      split
      · exact refused _ _ (Token.issue_withCookie_of_noSecret noSecret _
          (fun token => Token.refreshCookie s.config token _) out)
      · exact refused _ _ (Token.issue_withCookie_of_noSecret noSecret _
          (fun token => Token.accessCookie s.config token _) out)
  | false =>
      -- What is left once it is known whether there is a refresh token.
      have access (refreshToken : Option IssuedToken) (headers : Headers) :=
        accessStep_ends (o := o) (s := s) noSecret request user kind roles refreshToken headers m
      split
      · rename_i wanted
        obtain ⟨token, signed⟩ := Token.exists_sign (a := s.config.algorithm) noSecret
          (Token.refreshClaims s.config o.now o.refreshId user roles kind)
        have run := Token.issue_withCookie_run signed (fun token =>
          Token.refreshCookie s.config token (s.config.refreshTtl user.id roles)) out
        change (Token.issueRefresh s.config o.now o.refreshId user roles kind true).run out = _
          at run
        rw [CookieFlow.runOn_bind, CookieFlow.runOn_issuing, run]
        rcases Token.header?_refreshCookie signed (s.config.refreshTtl user.id roles) with
          ⟨refresh, value, made⟩ | ⟨unsettable, unmade⟩
        · rw [made]
          simp only
          rcases access (some ⟨token, _, _⟩) (out.append "set-cookie" value) with
            ⟨settable, session, out', begun⟩ | ⟨unsettable, e, failed⟩
          · exact begun ▸ .begun noSecret settable (fun _ => refresh) session out'
          · exact failed ▸ .refreshAlone noSecret wanted refresh unsettable e value
        · rw [unmade]
          exact .refreshUnset noSecret wanted unsettable _
      · rename_i unwanted
        rcases access none out with ⟨settable, session, out', begun⟩ | ⟨unsettable, e, failed⟩
        · exact begun ▸ .begun noSecret settable (fun wanted => absurd wanted unwanted) session out'
        · exact failed ▸ .accessUnset noSecret (by simpa using unwanted) unsettable e

end Service

/-- What is told of a session does not change how its beginning ends. -/
theorem EstablishEnds.map {α β : Type} {x : CookieFlow α}
    (ends : EstablishEnds s request out m (x.runOn out m)) (f : α → β) :
    EstablishEnds s request out m
      (CookieFlow.runOn (x >>= fun a => pure (f a)) out m) := by
  rw [CookieFlow.runOn_bind]
  generalize x.runOn out m = ended at ends
  cases ends with
  | unsigned noSecret e => exact .unsigned noSecret e
  | refreshUnset secret wanted unsettable e => exact .refreshUnset secret wanted unsettable e
  | accessUnset secret unwanted unsettable e => exact .accessUnset secret unwanted unsettable e
  | refreshAlone secret wanted settable unsettable e value =>
      exact .refreshAlone secret wanted settable unsettable e value
  | begun secret access refresh a out' => exact .begun secret access refresh (f a) out'

/-- With a secret, the beginning of a session fails when the cookies of the session cannot be set. -/
theorem EstablishEnds.error_iff {α : Type} {ended : Except Error α × Headers × Memory}
    (ends : EstablishEnds s request out m ended) (secret : s.config.key.isEmpty = false) :
    (∃ e, ended.1 = .error e) ↔ ¬s.SessionSettable request := by
  cases ends with
  | unsigned noSecret e =>
      rw [secret] at noSecret
      cases noSecret
  | refreshUnset _ wanted unsettable e =>
      exact iff_of_true ⟨e, rfl⟩ fun settable => unsettable (settable.2 wanted)
  | accessUnset _ unwanted unsettable e =>
      exact iff_of_true ⟨e, rfl⟩ fun settable => unsettable settable.1
  | refreshAlone _ wanted _ unsettable e value =>
      exact iff_of_true ⟨e, rfl⟩ fun settable => unsettable settable.1
  | begun _ access refresh a out' =>
      refine iff_of_false ?_ (not_not.2 ⟨access, refresh⟩)
      rintro ⟨e, he⟩
      cases he

/-- The beginning of a session that fails leaves a cookie behind when only the cookie of the access
token cannot be set. -/
theorem EstablishEnds.error_headers_iff {α : Type} {ended : Except Error α × Headers × Memory}
    (ends : EstablishEnds s request out m ended) :
    ((∃ e, ended.1 = .error e) ∧ ended.2.1 ≠ out) ↔
      s.config.key.isEmpty = false ∧ request.withRefreshToken = true ∧
        RefreshSettable s.config ∧ ¬AccessSettable s.config := by
  cases ends with
  | unsigned noSecret e =>
      rw [noSecret]
      exact iff_of_false (fun h => h.2 rfl) fun h => Bool.noConfusion h.1
  | refreshUnset _ wanted unsettable e =>
      exact iff_of_false (fun h => h.2 rfl) fun h => unsettable h.2.2.1
  | accessUnset _ unwanted unsettable e =>
      rw [unwanted]
      exact iff_of_false (fun h => h.2 rfl) fun h => Bool.noConfusion h.2.1
  | refreshAlone secret wanted settable unsettable e value =>
      refine iff_of_true ⟨⟨e, rfl⟩, fun same => ?_⟩ ⟨secret, wanted, settable, unsettable⟩
      have lines := congrArg (·.lines.length) same
      simp [Headers.append] at lines
  | begun _ access refresh a out' =>
      refine iff_of_false ?_ fun h => h.2.2.2 access
      rintro ⟨⟨e, he⟩, -⟩
      cases he

namespace Service

/-! ## Steps that conclude -/

/-- The step begins a session for a user who passes; the others ask for the second step. -/
def BeginsSession (request : LoginRequest) (user : User) : Prop :=
  ∀ name password, request.credential = .password name password → user.hasSecondFactor = false

/-- A step concludes with a session or without. -/
theorem conclude_cases (s : Service) (o : Occasion) (request : LoginRequest) (user : User) :
    (BeginsSession request user ∧ ∃ kind, s.conclude o request user = (do
        let session ← s.establish o request user kind
        return .established session)) ∨
      (¬BeginsSession request user ∧ s.conclude o request user = (do
        let pendingToken ← issuing (Token.issuePending s.config o.now o.pendingId user)
        return .secondFactorRequired pendingToken)) := by
  unfold conclude
  cases credential : request.credential with
  | password name password =>
      simp only
      cases enrolled : user.hasSecondFactor with
      | false => exact .inl ⟨fun _ _ _ => enrolled, .password, rfl⟩
      | true =>
          refine .inr ⟨fun begins => ?_, rfl⟩
          rw [begins name password credential] at enrolled
          cases enrolled
  | secondFactor pendingToken code =>
      refine .inl ⟨fun name password other => ?_, .mfa, rfl⟩
      rw [credential] at other
      cases other

/-- Concluding leaves the store as it is. -/
theorem conclude_memory (s : Service) (o : Occasion) (request : LoginRequest) (user : User)
    (out : Headers) (m : Memory) : ((s.conclude o request user).runOn out m).2.2 = m := by
  refine (?_ : CookieFlow.Keeps (id : Memory → Memory) _) out m
  rcases conclude_cases s o request user with ⟨-, kind, concluded⟩ | ⟨-, concluded⟩
  · rw [concluded]
    exact (establish_keeps _ request user kind).bind fun _ => CookieFlow.keeps_pure _
  · rw [concluded]
    exact (CookieFlow.keeps_issuing _).bind fun _ => CookieFlow.keeps_pure _

/-- A step that asks for the second step sets no cookies, and with a secret it does not fail. -/
theorem runOn_pendingStep (o : Occasion) (user : User) (out : Headers) (m : Memory) :
    let step : CookieFlow LoginOutcome := do
      let pendingToken ← issuing (Token.issuePending s.config o.now o.pendingId user)
      return .secondFactorRequired pendingToken
    (step.runOn out m).2.1 = out ∧
      (s.config.key.isEmpty = false → ¬∃ e, (step.runOn out m).1 = .error e) := by
  intro step
  simp only [step]
  rw [CookieFlow.runOn_bind, CookieFlow.runOn_issuing]
  unfold Token.issuePending Token.issue
  cases signed : Token.sign s.config.algorithm s.config.key
    (Token.pendingClaims s.config o.now o.pendingId user) with
  | ok token =>
      refine ⟨rfl, fun _ => ?_⟩
      rintro ⟨e, he⟩
      cases he
  | error e =>
      refine ⟨rfl, fun secret => ?_⟩
      obtain ⟨token, other⟩ := Token.exists_sign (a := s.config.algorithm) secret
        (Token.pendingClaims s.config o.now o.pendingId user)
      rw [signed] at other
      cases other

/-- With a secret, a step fails for a user who passes when it begins a session whose cookies cannot
be set. -/
theorem conclude_error_iff (secret : s.config.key.isEmpty = false) (o : Occasion)
    (request : LoginRequest) (user : User) (out : Headers) (m : Memory) :
    (∃ e, ((s.conclude o request user).runOn out m).1 = .error e) ↔
      BeginsSession request user ∧ ¬s.SessionSettable request := by
  rcases conclude_cases s o request user with ⟨begins, kind, concluded⟩ | ⟨asks, concluded⟩
  · have ends := (establish_ends s o request user kind out m).map LoginOutcome.established
    rw [concluded, ends.error_iff secret]
    exact (and_iff_right begins).symm
  · rw [concluded]
    exact iff_of_false ((runOn_pendingStep o user out m).2 secret) fun h => asks h.1

/-- A step that fails for a user who passes leaves a cookie behind when only the cookie of the access
token of a session that it begins cannot be set. -/
theorem conclude_error_headers_iff (o : Occasion) (request : LoginRequest) (user : User)
    (out : Headers) (m : Memory) :
    ((∃ e, ((s.conclude o request user).runOn out m).1 = .error e) ∧
        ((s.conclude o request user).runOn out m).2.1 ≠ out) ↔
      BeginsSession request user ∧ s.config.key.isEmpty = false ∧
        request.withRefreshToken = true ∧ RefreshSettable s.config ∧ ¬AccessSettable s.config := by
  rcases conclude_cases s o request user with ⟨begins, kind, concluded⟩ | ⟨asks, concluded⟩
  · have ends := (establish_ends s o request user kind out m).map LoginOutcome.established
    rw [concluded, ends.error_headers_iff]
    exact (and_iff_right begins).symm
  · rw [concluded]
    exact iff_of_false (fun h => h.2 (runOn_pendingStep o user out m).1) fun h => asks h.1

/-! ## Logins that fail -/

/-- A step of a login uses up a recovery code: its user passes with the code. -/
structure Redeems (s : Service) (now : Time) (m : Memory) (request : LoginRequest) (user : User)
    (digest : String) : Prop where
  passes : Passes s now m request.credential user (m.takeRecoveryCode user.id digest).2
  left : digest ∈ m.recoveryDigests user.id

/-- Only one user passes, with one store after the check. -/
theorem passes_unique {credential : LoginCredential} {now : Time} {user' : User} {m₁ m₂ : Memory}
    (first : Passes s now m credential user m₁) (second : Passes s now m credential user' m₂) :
    user = user' ∧ m₁ = m₂ := by
  have same := (runOn_credentialUser_of_passes first).symm.trans
    (runOn_credentialUser_of_passes second)
  exact ⟨Except.ok.inj (congrArg Prod.fst same), congrArg Prod.snd same⟩

/-- A recovery code that is used up is gone. -/
theorem Redeems.gone {now : Time} {digest : String}
    (redeems : Redeems s now m request user digest) :
    digest ∉ (m.takeRecoveryCode user.id digest).2.recoveryDigests user.id := by
  have taken : m.takeRecoveryCode user.id digest =
      (true, (m.takeRecoveryCode user.id digest).2) := by
    refine Prod.ext ?_ rfl
    rw [Memory.takeRecoveryCode_fst, decide_eq_true redeems.left]
  exact (Memory.takeRecoveryCode_true taken).2

theorem Redeems.changed {now : Time} {digest : String}
    (redeems : Redeems s now m request user digest) :
    (m.takeRecoveryCode user.id digest).2 ≠ m :=
  fun same => redeems.gone (same.symm ▸ redeems.left)

/-- Only a second step uses up a recovery code, and it begins a session. -/
theorem Redeems.beginsSession {now : Time} {digest : String}
    (redeems : Redeems s now m request user digest) : BeginsSession request user := by
  intro name password credential
  have changed := redeems.changed
  have passes := redeems.passes
  rw [credential] at passes
  generalize (m.takeRecoveryCode user.id digest).2 = m' at passes changed
  cases passes with
  | password found fits => exact absurd rfl changed

/-- Whoever passes with a change of the store uses up a recovery code, and there is a secret. -/
theorem exists_redeems {now : Time} (passes : Passes s now m request.credential user m')
    (changed : m' ≠ m) :
    s.config.key.isEmpty = false ∧ ∃ digest, Redeems s now m request user digest := by
  generalize hcredential : request.credential = credential at passes
  cases passes with
  | password found fits => exact absurd rfl changed
  | oneTimeCode awaited accepted => exact absurd rfl changed
  | recoveryCode awaited refused read left =>
      obtain ⟨claims, verified, -⟩ := awaited.pending
      refine ⟨Token.secret_of_verify verified, _, ?_, left⟩
      rw [hcredential]
      exact .recoveryCode awaited refused read left

/-- A step without a session to end checks the credential and concludes. -/
theorem runOn_login_of_nobody (nobody : current.filter (·.source == .session) = none) :
    (s.login o request current).runOn out m =
      match (s.credentialUser o.now request.credential).runOn m with
      | (.ok user, m') => (s.conclude o request user).runOn out m'
      | (.error e, m') => (.error e, out, m') := by
  have nothing : (s.endCurrent current).runOn out m = (.ok (), out, m) := by
    rw [endCurrent, nobody]
    rfl
  rw [login_eq, CookieFlow.runOn_bind_ok nothing, CookieFlow.runOn_bind,
    CookieFlow.runOn_withCookies]
  rcases (s.credentialUser o.now request.credential).runOn m with ⟨r, m'⟩
  cases r <;> rfl

/-- A step whose credential passes concludes. -/
theorem runOn_login_of_passes (nobody : current.filter (·.source == .session) = none)
    (passes : Passes s o.now m request.credential user m') :
    (s.login o request current).runOn out m = (s.conclude o request user).runOn out m' := by
  rw [runOn_login_of_nobody nobody, runOn_credentialUser_of_passes passes]

/-- A step whose credential is refused changes nothing. -/
theorem runOn_login_of_refused (nobody : current.filter (·.source == .session) = none)
    (refused : ∀ user m', ¬Passes s o.now m request.credential user m') :
    (s.login o request current).runOn out m = (.error .unauthenticated, out, m) := by
  rw [runOn_login_of_nobody nobody, runOn_credentialUser_of_refused refused]

/-- A login that fails changes the store when it uses up a recovery code and the cookies of the
session cannot be set. -/
theorem login_error_memory_iff (nobody : current.filter (·.source == .session) = none) :
    ((∃ e, ((s.login o request current).runOn out m).1 = .error e) ∧
        ((s.login o request current).runOn out m).2.2 ≠ m) ↔
      (∃ user digest, Redeems s o.now m request user digest) ∧ ¬s.SessionSettable request := by
  by_cases passing : ∃ user m', Passes s o.now m request.credential user m'
  · obtain ⟨user, m₁, passes⟩ := passing
    rw [runOn_login_of_passes nobody passes, conclude_memory]
    constructor
    · rintro ⟨failed, changed⟩
      obtain ⟨secret, digest, redeems⟩ := exists_redeems passes changed
      exact ⟨⟨user, digest, redeems⟩, ((conclude_error_iff secret o request user out m₁).1 failed).2⟩
    · rintro ⟨⟨user', digest, redeems⟩, unsettable⟩
      obtain ⟨rfl, rfl⟩ := passes_unique passes redeems.passes
      obtain ⟨secret, -⟩ := exists_redeems passes redeems.changed
      exact ⟨(conclude_error_iff secret o request user out _).2
        ⟨redeems.beginsSession, unsettable⟩, redeems.changed⟩
  · rw [runOn_login_of_refused nobody fun user m' passes => passing ⟨user, m', passes⟩]
    refine iff_of_false (fun h => h.2 rfl) ?_
    rintro ⟨⟨user, digest, redeems⟩, -⟩
    exact passing ⟨user, _, redeems.passes⟩

/-- A login that fails sets a cookie when only the cookie of the access token of a session that it
begins cannot be set. -/
theorem login_error_headers_iff (nobody : current.filter (·.source == .session) = none) :
    ((∃ e, ((s.login o request current).runOn out m).1 = .error e) ∧
        ((s.login o request current).runOn out m).2.1 ≠ out) ↔
      (∃ user m', Passes s o.now m request.credential user m' ∧ BeginsSession request user) ∧
        s.config.key.isEmpty = false ∧ request.withRefreshToken = true ∧
        RefreshSettable s.config ∧ ¬AccessSettable s.config := by
  by_cases passing : ∃ user m', Passes s o.now m request.credential user m'
  · obtain ⟨user, m₁, passes⟩ := passing
    rw [runOn_login_of_passes nobody passes, conclude_error_headers_iff]
    refine and_congr_left fun _ => ⟨fun begins => ⟨user, m₁, passes, begins⟩, ?_⟩
    rintro ⟨user', m₂, passes', begins⟩
    obtain ⟨rfl, -⟩ := passes_unique passes passes'
    exact begins
  · rw [runOn_login_of_refused nobody fun user m' passes => passing ⟨user, m', passes⟩]
    refine iff_of_false (fun h => h.2 rfl) ?_
    rintro ⟨⟨user, m', passes, -⟩, -⟩
    exact passing ⟨user, m', passes⟩

/-- What a login that fails leaves behind, where no session arrives with the request.  It changes the
store when it uses up a recovery code and the cookies of the session cannot be set; the code is gone
then.  It sets a cookie when only the cookie of the access token of a session cannot be set.  Where
the cookies can be set, it leaves the store and the header as they were. -/
theorem failed_login_effects (s : Service) (o : Occasion) (request : LoginRequest)
    (current : Option Principal) (out : Headers) (m : Memory)
    (nobody : current.filter (·.source == .session) = none) :
    let ended := (s.login o request current).runOn out m
    (((∃ e, ended.1 = .error e) ∧ ended.2.2 ≠ m) ↔
      (∃ user digest, Redeems s o.now m request user digest) ∧ ¬s.SessionSettable request) ∧
    (∀ user digest, Redeems s o.now m request user digest →
      digest ∉ ended.2.2.recoveryDigests user.id) ∧
    (((∃ e, ended.1 = .error e) ∧ ended.2.1 ≠ out) ↔
      (∃ user m', Passes s o.now m request.credential user m' ∧ BeginsSession request user) ∧
        s.config.key.isEmpty = false ∧ request.withRefreshToken = true ∧
        RefreshSettable s.config ∧ ¬AccessSettable s.config) ∧
    (s.SessionSettable request → (∃ e, ended.1 = .error e) → ended.2.1 = out ∧ ended.2.2 = m) := by
  intro ended
  refine ⟨login_error_memory_iff nobody, ?_, login_error_headers_iff nobody, ?_⟩
  · intro user digest redeems
    have memory : ended.2.2 = (m.takeRecoveryCode user.id digest).2 := by
      simp only [ended]
      rw [runOn_login_of_passes nobody redeems.passes, conclude_memory]
    rw [memory]
    exact redeems.gone
  · intro settable failed
    constructor
    · by_contra changed
      exact ((login_error_headers_iff nobody).1 ⟨failed, changed⟩).2.2.2.2 settable.1
    · by_contra changed
      exact ((login_error_memory_iff nobody).1 ⟨failed, changed⟩).2 settable

end Service

/-- A service whose domain of cookies ends with a line break. -/
def brokenService : Service :=
  { smallService with
    config := { smallService.config with cookieDomain := some "example.com\n" } }

/-- Alice's login with her recovery code fails at the broken service, and the code is gone. -/
theorem brokenService_spends_code :
    ∃ digest token, Credential.RecoveryCode.digest? "AB12" = some digest ∧
      (none : Option Principal).filter (·.source == .session) = none ∧
      let store := (smallStore (some "JBSWY3DP")).addRecoveryCode "1" digest
      let ended := (brokenService.login ⟨1200, "b", "r", "q", "k", []⟩
        ⟨.secondFactor token "AB12", 0, true, none⟩ none).runOn .empty store
      (∃ e, ended.1 = .error e) ∧ digest ∈ store.recoveryDigests "1" ∧
        digest ∉ ended.2.2.recoveryDigests "1" := by
  have read : Credential.RecoveryCode.digest? "AB12" = some (Token.sha256Hex "AB12") :=
    Credential.RecoveryCode.digest?_of_normalized (by decide) (by decide)
  generalize Token.sha256Hex "AB12" = digest at read
  obtain ⟨token, signed⟩ := Token.exists_sign (a := brokenService.config.algorithm)
    smallService_canIssue.secret
    (Token.pendingClaims brokenService.config 1000 "p" (alice (some "JBSWY3DP")))
  have verified := Token.verify_newClaims (t := 1200) (by decide) (by decide) signed (by decide)
    (by decide)
  refine ⟨digest, token, read, rfl, ?_⟩
  intro store ended
  have left : digest ∈ store.recoveryDigests "1" := Memory.mem_recoveryDigests_added.2 (.inr rfl)
  have awaited : Awaits brokenService 1200 store token (alice (some "JBSWY3DP")) "JBSWY3DP" :=
    ⟨⟨_, verified, rfl, smallStore_activeUser? _⟩, rfl, by decide⟩
  have redeems : Service.Redeems brokenService 1200 store ⟨.secondFactor token "AB12", 0, true, none⟩
      (alice (some "JBSWY3DP")) digest :=
    ⟨.recoveryCode awaited rfl read left, left⟩
  have unsettable : ¬brokenService.SessionSettable
      ⟨.secondFactor token "AB12", 0, true, none⟩ :=
    fun settable => absurd (settable.1.2 _ rfl) (by decide)
  obtain ⟨spent, gone, -⟩ := Service.failed_login_effects brokenService
    ⟨1200, "b", "r", "q", "k", []⟩ ⟨.secondFactor token "AB12", 0, true, none⟩ none .empty store rfl
  have named : (alice (some "JBSWY3DP")).id = "1" := rfl
  have gone := gone _ digest redeems
  rw [named] at gone
  exact ⟨(spent.2 ⟨⟨_, digest, redeems⟩, unsettable⟩).1, left, gone⟩

end Gatehouse.Access
