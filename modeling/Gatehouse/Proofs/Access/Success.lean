import Gatehouse.Proofs.Access.Login
import Gatehouse.Proofs.Credential.Password

/-!
# Requests that end well - What is enough for them

Where tokens can be signed and their cookies set, a login with the right password ends in a session
or asks for the second step, the right code or a recovery code that is left ends the second step in a
session, and a good refresh token is traded.

Main results:

- Theorem `login_of_password` and theorem `login_of_secondFactor`: logins that end in a session.
- Theorem `runOn_secondFactorUser_of_recoveryCode` and theorem `login_of_passed`: second steps with a
  recovery code.
- Theorem `login_of_enrolled`: logins that go on to the second step.
- Theorem `refresh_eq` and theorem `refresh_of_verified`: a good refresh token is traded.
-/

namespace Gatehouse.Access.Service

open Http (Headers)
open Store (Asking Memory Role User)
open Token (CanIssue Claims IssuedToken LoginKind Time)

variable {s : Service} {m : Memory} {o : Occasion} {out : Headers}

/-! ## Parts of requests -/

/-- A session can begin for every user. -/
theorem establish_reads (can : CanIssue s.config) (request : LoginRequest) (user : User)
    (kind : LoginKind) : (s.establish o request user kind).Reads := by
  unfold establish
  have looked : (Flow.fetch (Asking.rolesOfUser user.id)).Reads := fun m =>
    ⟨m.rolesOf (m.assignments.find? user.id), Flow.runOn_rolesOfUser user.id⟩
  have access (roles : List Role) (parent : Option String) :
      (issuing (Token.issueAccess s.config o.now o.accessId user roles request.requestedTtl parent
        kind true)).Reads := CookieFlow.reads_issuing fun headers =>
          Token.exists_issueAccess can o.now o.accessId user roles _ parent kind headers
  have begun (roles : List Role) (refreshToken : Option IssuedToken) :=
    (access roles (refreshToken.map (·.id))).bind fun accessToken => CookieFlow.reads_pure
      (Session.mk user.id kind accessToken refreshToken (s.redirectTarget request.redirect))
  refine CookieFlow.Reads.bind ?_ ?_
  · exact CookieFlow.reads_withCookies looked
  · intro roles
    simp only
    split
    · refine CookieFlow.Reads.bind ?_ ?_
      · exact CookieFlow.reads_issuing fun headers =>
          Token.exists_issueRefresh can o.now o.refreshId user roles kind headers
      · exact fun issued => begun roles (some issued)
    · exact begun roles none

/-- The session that a request arrives with can end. -/
theorem exists_endCurrent (can : CanIssue s.config) (current : Option Principal)
    (out : Headers) (m : Memory) :
    ∃ out', (s.endCurrent current).runOn out m = (.ok (), out', s.storeAfterCurrent m current) := by
  unfold endCurrent storeAfterCurrent
  cases current.filter (·.source == .session) with
  | none => exact ⟨out, rfl⟩
  | some p =>
      obtain ⟨out', cleared⟩ := Token.exists_clearCookies can out
      refine ⟨out', ?_⟩
      simp only
      rw [CookieFlow.runOn_bind_ok (runOn_endSession p.claims), CookieFlow.runOn_issuing, cleared]

/-- The user with the right password passes the password step. -/
theorem runOn_passwordUser {name password : String} {user : User}
    (found : m.loginUser? s.config.loginByEmail (Text.trim name) = some user)
    (fits : Credential.passwordMatches user.passwordHash password = true) :
    (s.passwordUser name password).runOn m = (.ok user, m) := by
  rw [passwordUser, Flow.runOn_bind_ok (runOn_loginUser? name), found]
  simp only [fits]
  rfl

theorem runOn_activeUser {userId : String} {user : User}
    (active : m.activeUser? userId = some user) :
    (Flow.activeUser userId).runOn m = (.ok user, m) := by
  rw [Flow.runOn_activeUser, active]

/-- With a good token of an active user, the second step checks the code against the secret of the
user and then against the recovery codes. -/
theorem runOn_secondFactorUser_eq {now : Time} {pendingToken secret : String} {claims : Claims}
    {user : User} (code : String)
    (verified : Token.verify s.config.key now pendingToken = .ok claims)
    (scope : claims.hasScope .pending = true) (active : m.activeUser? claims.subject = some user)
    (enrolled : user.totpSecret = some secret) (given : secret ≠ "") :
    (s.secondFactorUser now pendingToken code).runOn m = Flow.runOn (do
      if s.acceptsCode secret now code then return user
      if ← takeRecoveryCode user.id code then return user
      throw .unauthenticated) m := by
  have nonempty : (some secret).filter (!·.isEmpty) = some secret := by
    simp [Option.filter, given]
  unfold secondFactorUser
  simp only [verified, scope, Bool.not_true, Bool.false_eq_true, if_false]
  rw [Flow.runOn_bind_ok (runOn_activeUser active), enrolled, nonempty]

/-- The user with the right code passes the second step. -/
theorem runOn_secondFactorUser {now : Time} {pendingToken code secret : String} {claims : Claims}
    {user : User} (verified : Token.verify s.config.key now pendingToken = .ok claims)
    (scope : claims.hasScope .pending = true) (active : m.activeUser? claims.subject = some user)
    (enrolled : user.totpSecret = some secret) (given : secret ≠ "")
    (accepted : s.acceptsCode secret now code = true) :
    (s.secondFactorUser now pendingToken code).runOn m = (.ok user, m) := by
  rw [runOn_secondFactorUser_eq code verified scope active enrolled given, if_pos accepted]
  rfl

/-- The user with a recovery code that is left passes the second step and has the code no longer. -/
theorem runOn_secondFactorUser_of_recoveryCode {now : Time}
    {pendingToken code secret digest : String} {claims : Claims} {user : User}
    (verified : Token.verify s.config.key now pendingToken = .ok claims)
    (scope : claims.hasScope .pending = true) (active : m.activeUser? claims.subject = some user)
    (enrolled : user.totpSecret = some secret) (given : secret ≠ "")
    (refused : s.acceptsCode secret now code = false)
    (read : Credential.RecoveryCode.digest? code = some digest)
    (left : digest ∈ m.recoveryDigests user.id) :
    (s.secondFactorUser now pendingToken code).runOn m =
      (.ok user, (m.takeRecoveryCode user.id digest).2) := by
  have present : (m.takeRecoveryCode user.id digest).1 = true := by
    rw [Memory.takeRecoveryCode_fst, decide_eq_true left]
  have taken : (takeRecoveryCode user.id code).runOn m =
      (.ok true, (m.takeRecoveryCode user.id digest).2) := by
    unfold takeRecoveryCode
    rw [read, ← present]
    exact Flow.runOn_fetch rfl
  rw [runOn_secondFactorUser_eq code verified scope active enrolled given, refused,
    if_neg Bool.false_ne_true, Flow.runOn_bind_ok taken]
  rfl

/-! ## Logins -/

/-- A login with the right password of a user without a second factor ends in a session. -/
theorem login_of_password (can : CanIssue s.config) (o : Occasion) (out : Headers)
    (current : Option Principal) {request : LoginRequest} {name password : String} {user : User}
    (credential : request.credential = .password name password)
    (found : m.loginUser? s.config.loginByEmail (Text.trim name) = some user)
    (fits : Credential.passwordMatches user.passwordHash password = true)
    (single : user.hasSecondFactor = false) :
    ∃ session out' roles parent, (s.login o request current).runOn out m =
        (.ok (.established session), out', s.storeAfterCurrent m current) ∧
      Begun s o request user roles .password session.refreshToken parent ∧
      Token.sign s.config.algorithm s.config.key (Token.accessClaims s.config o.now o.accessId user
        roles request.requestedTtl parent .password) = .ok session.accessToken.token := by
  obtain ⟨out₁, ended⟩ := exists_endCurrent can current out m
  have passed := runOn_passwordUser (s := s) (m := s.storeAfterCurrent m current)
    ((loginUser?_storeAfterCurrent current _ _).trans found) fits
  obtain ⟨session, out₂, begun⟩ := establish_reads can request user .password (o := o) out₁
    (s.storeAfterCurrent m current)
  obtain ⟨-, -, roles, parent, issued⟩ := establish_ok begun
  refine ⟨session, out₂, roles, parent, ?_, issued⟩
  unfold login
  rw [CookieFlow.runOn_bind_ok ended]
  simp only [credential]
  rw [CookieFlow.runOn_withCookies_bind passed]
  simp only [single, Bool.false_eq_true, if_false]
  rw [CookieFlow.runOn_bind_ok begun]
  rfl

/-- A login with the right password of a user with a second factor asks for the second step. -/
theorem login_of_enrolled (can : CanIssue s.config) (o : Occasion) (out : Headers)
    (current : Option Principal) {request : LoginRequest} {name password : String} {user : User}
    (credential : request.credential = .password name password)
    (found : m.loginUser? s.config.loginByEmail (Text.trim name) = some user)
    (fits : Credential.passwordMatches user.passwordHash password = true)
    (enrolled : user.hasSecondFactor = true) :
    ∃ token out', (s.login o request current).runOn out m =
      (.ok (.secondFactorRequired token), out', s.storeAfterCurrent m current) := by
  obtain ⟨out₁, ended⟩ := exists_endCurrent can current out m
  have passed := runOn_passwordUser (s := s) (m := s.storeAfterCurrent m current)
    ((loginUser?_storeAfterCurrent current _ _).trans found) fits
  let claims := Token.pendingClaims s.config o.now o.pendingId user
  obtain ⟨token, signed⟩ := Token.exists_sign (a := s.config.algorithm) can.secret claims
  have issued : (Token.issuePending s.config o.now o.pendingId user).run out₁ =
      (.ok ⟨token, claims.id, claims.expiresAt⟩, out₁) := by
    rw [Token.issuePending, Token.issue, signed]
    rfl
  refine ⟨⟨token, claims.id, claims.expiresAt⟩, out₁, ?_⟩
  unfold login
  rw [CookieFlow.runOn_bind_ok ended]
  simp only [credential]
  rw [CookieFlow.runOn_withCookies_bind passed]
  simp only [enrolled, if_true]
  rw [CookieFlow.runOn_issuing_bind issued]
  rfl

/-- A user who passes the second step gets a session. -/
theorem login_of_passed (can : CanIssue s.config) (out : Headers) {request : LoginRequest}
    {pendingToken code : String} {user : User} {m' : Memory}
    (credential : request.credential = .secondFactor pendingToken code)
    (passed : (s.secondFactorUser o.now pendingToken code).runOn m = (.ok user, m')) :
    ∃ session out', (s.login o request none).runOn out m =
      (.ok (.established session), out', m') ∧ session.userId = user.id := by
  obtain ⟨out₁, ended⟩ : ∃ out₁, (s.endCurrent none).runOn out m = (.ok (), out₁, m) :=
    exists_endCurrent can none out m
  obtain ⟨session, out₂, begun⟩ := establish_reads can request user .mfa (o := o) out₁ m'
  obtain ⟨-, owner, -⟩ := establish_ok begun
  refine ⟨session, out₂, ?_, owner⟩
  unfold login
  rw [CookieFlow.runOn_bind_ok ended]
  simp only [credential]
  rw [CookieFlow.runOn_withCookies_bind passed, CookieFlow.runOn_bind_ok begun]
  rfl

/-- The right code ends the second step in a session. -/
theorem login_of_secondFactor (can : CanIssue s.config) (out : Headers) {request : LoginRequest}
    {pendingToken code secret : String} {claims : Claims} {user : User}
    (credential : request.credential = .secondFactor pendingToken code)
    (verified : Token.verify s.config.key o.now pendingToken = .ok claims)
    (scope : claims.hasScope .pending = true) (active : m.activeUser? claims.subject = some user)
    (enrolled : user.totpSecret = some secret) (given : secret ≠ "")
    (accepted : s.acceptsCode secret o.now code = true) :
    ∃ session out', (s.login o request none).runOn out m =
      (.ok (.established session), out', m) := by
  obtain ⟨session, out', ended, -⟩ := login_of_passed can out credential
    (runOn_secondFactorUser verified scope active enrolled given accepted)
  exact ⟨session, out', ended⟩

/-! ## Refreshes -/

/-- What is left of a refresh once the ledger has been asked. -/
def trade (s : Service) (o : Occasion) (claims : Claims) (requestedTtl : Nat)
    (redirect : Option String) : CookieFlow Session := do
  let user ← Flow.withCookies (Flow.activeUser claims.subject)
  let roles ← Flow.withCookies (Flow.fetch (Asking.rolesOfUser user.id))
  let kind := claims.loginKind?.getD .password
  let accessToken ← issuing <|
    Token.issueAccess s.config o.now o.accessId user roles requestedTtl (some claims.id) kind true
  return ⟨user.id, kind, accessToken, none, s.redirectTarget redirect⟩

/-- With a good refresh token, a refresh asks the ledger and then trades the token. -/
theorem refresh_eq {headers : Headers} {token : String} {claims : Claims} (requestedTtl : Nat)
    (redirect : Option String)
    (given : Http.Cookie.find? headers s.config.refreshCookie = some token)
    (verified : Token.verify s.config.key o.now token = .ok claims)
    (scope : claims.hasScope .refresh = true) :
    s.refresh o headers requestedTtl redirect = (do
      if ← Flow.withCookies (Flow.fetch (Ledger.isRejected claims)) then throw .unauthenticated
      s.trade o claims requestedTtl redirect) := by
  unfold refresh refreshSigned
  simp only [given, verified, scope, Bool.not_true, Bool.false_eq_true, if_false]
  rfl

/-- A token of an active user is traded for an access token. -/
theorem trade_of_active (can : CanIssue s.config) (out : Headers) {claims : Claims} {user : User}
    (requestedTtl : Nat) (redirect : Option String)
    (active : m.activeUser? claims.subject = some user) :
    ∃ session out' roles, (s.trade o claims requestedTtl redirect).runOn out m =
        (.ok session, out', m) ∧
      Token.sign s.config.algorithm s.config.key (Token.accessClaims s.config o.now o.accessId user
        roles requestedTtl (some claims.id) (claims.loginKind?.getD .password)) =
          .ok session.accessToken.token := by
  obtain ⟨issued, out', hissue⟩ := Token.exists_issueAccess can o.now o.accessId user
    (m.rolesOf (m.assignments.find? user.id)) requestedTtl (some claims.id)
    (claims.loginKind?.getD .password) out
  refine ⟨⟨user.id, claims.loginKind?.getD .password, issued, none, s.redirectTarget redirect⟩,
    out', m.rolesOf (m.assignments.find? user.id), ?_, (Token.issueAccess_ok hissue).1⟩
  unfold trade
  rw [CookieFlow.runOn_withCookies_bind (runOn_activeUser active),
    CookieFlow.runOn_withCookies_bind (Flow.runOn_rolesOfUser user.id),
    CookieFlow.runOn_issuing_bind hissue]
  rfl

/-- A good refresh token of an active user is traded for an access token. -/
theorem refresh_of_verified (can : CanIssue s.config) (out : Headers) {headers : Headers}
    {token : String} {claims : Claims} {user : User} (requestedTtl : Nat)
    (redirect : Option String)
    (given : Http.Cookie.find? headers s.config.refreshCookie = some token)
    (verified : Token.verify s.config.key o.now token = .ok claims)
    (scope : claims.hasScope .refresh = true) (kept : m.rejects claims = false)
    (active : m.activeUser? claims.subject = some user) :
    ∃ session out' roles, (s.refresh o headers requestedTtl redirect).runOn out m =
        (.ok session, out', m) ∧
      Token.sign s.config.algorithm s.config.key (Token.accessClaims s.config o.now o.accessId user
        roles requestedTtl (some claims.id) (claims.loginKind?.getD .password)) =
          .ok session.accessToken.token := by
  have asked : (Flow.fetch (Ledger.isRejected claims)).runOn m = (.ok false, m) := by
    rw [Flow.runOn_fetch (Ledger.runOn_isRejected claims), kept]
  rw [refresh_eq requestedTtl redirect given verified scope,
    CookieFlow.runOn_withCookies_bind asked]
  exact trade_of_active can out requestedTtl redirect active

end Gatehouse.Access.Service

/-! ## A small service -/

namespace Gatehouse.Access

open Store (Memory Role User)
open Token (CanIssue)

/-- A service whose access tokens live for a minute and whose refresh tokens live for a hundred
seconds.  One code is right for everybody. -/
def smallService : Service :=
  ⟨{ secret := "sesame", baseAccessTtl := 60, baseRefreshTtl := 100 }, fun _ _ code =>
    code == "000000"⟩

/-- A user with the password `open`. -/
def alice (totpSecret : Option String) : User :=
  { User.blank with
    id := "1"
    username := "alice"
    passwordHash := Credential.hashedPassword (List.replicate 16 0) "open"
    totpSecret }

/-- A store with one user. -/
def smallStore (totpSecret : Option String) : Memory :=
  Memory.empty.putUser (alice totpSecret)

theorem smallService_canIssue : CanIssue smallService.config where
  secret := by decide +kernel
  access := by decide
  refresh := by decide
  path := by decide
  domain d h := by cases h

theorem smallService_grantedTtl (userId : String) (roles : List Role) :
    smallService.config.grantedTtl userId roles 0 = 60 := rfl

theorem smallService_refreshTtl (userId : String) (roles : List Role) :
    smallService.config.refreshTtl userId roles = 100 := rfl

theorem smallStore_loginUser? (totpSecret : Option String) :
    (smallStore totpSecret).loginUser? smallService.config.loginByEmail (Text.trim "alice") =
      some (alice totpSecret) := by
  rfl

theorem alice_passwordMatches (totpSecret : Option String) :
    Credential.passwordMatches (alice totpSecret).passwordHash "open" = true :=
  Credential.passwordMatches_hashedPassword (by decide) (by decide) "open"

theorem smallStore_activeUser? (totpSecret : Option String) :
    (smallStore totpSecret).activeUser? "1" = some (alice totpSecret) := by
  rfl

end Gatehouse.Access
