import Gatehouse.Proofs.Access.Interference
import Gatehouse.Proofs.Access.Login

/-!
# Requests - Under interference

What a login, a refresh and a logout have seen when they end well, and what they write into the
ledger, whatever other requests do between their queries.

Main definitions:

- `Service.Admits`: a text is verified and good for a purpose.
- `Service.LoginGives`: what a login has signed when it ends well.
- `Ledger.endingQueries`: the queries that end a session.

Main results:

- Theorem `authenticateSigned_gives`, theorem `refresh_gives` and theorem `login_gives`: what the
  requests have seen of the tokens that they accepted, and what they have signed.
- Theorem `login_writes`, theorem `refresh_writes` and theorem `logout_writes`: the requests write
  into the ledger just to end a session.
-/

namespace Gatehouse.Access

open Http (Headers)
open Store (Action Asking Memory Query Reply Role User)
open Token (Claims IssuedToken LoginKind Scope Time)

variable {σ : Type} {answer : σ → (q : Query) → Reply q × σ} {s : Service} {o : Occasion}

/-! ## Ending sessions -/

namespace Ledger

/-- The queries that end the session of a token. -/
def endingQueries (c : Config) (claims : Claims) : List Query :=
  .reject (rowOf claims) ::
    match claims.parent? with
    | some parent => [.reject (parentRow c.longestRefreshTtl claims parent)]
    | none => []

theorem mem_endingQueries_iff {c : Config} {claims : Claims} {row : Store.Rejection} :
    .reject row ∈ endingQueries c claims ↔ row = rowOf claims ∨
      ∃ parent, claims.parent? = some parent ∧
        row = parentRow c.longestRefreshTtl claims parent := by
  unfold endingQueries
  cases claims.parent? <;> simp

/-- All of these queries change the ledger. -/
theorem filter_endingQueries (c : Config) (claims : Claims) :
    (endingQueries c claims).filter Query.changesLedger = endingQueries c claims := by
  unfold endingQueries
  cases claims.parent? <;> rfl

/-- Ending a session asks these queries. -/
theorem endSession_ends (c : Config) (claims : Claims) :
    (endSession c claims).run.Ends Memory.answer fun asked _ =>
      asked = endingQueries c claims := by
  have own : (rejectToken claims).run.Ends Memory.answer fun asked r =>
      asked = [.reject (rowOf claims)] ∧ r = .ok () := fun _ => ⟨rfl, rfl⟩
  unfold endSession endingQueries
  refine Action.Ends.bind own ?_
  rintro asked r ⟨rfl, rfl⟩
  cases claims.parent? with
  | none => exact rfl
  | some parent => exact fun _ => rfl

/-- Asking whether a token is rejected does not change the ledger. -/
theorem isRejected_ends (claims : Claims) :
    (isRejected claims).run.Ends Memory.answer fun asked _ =>
      asked.filter Query.changesLedger = [] := by
  unfold isRejected
  have own : (Asking.isRejected claims.id).run.Ends Memory.answer fun asked _ =>
      asked.filter Query.changesLedger = [] := fun _ => rfl
  refine Action.Ends.bind own fun asked r first => ?_
  cases r with
  | error f => exact Action.ends_done _ first
  | ok rejected =>
      cases rejected with
      | true => exact Action.ends_done _ first
      | false =>
          cases claims.parent? with
          | none => exact Action.ends_done _ first
          | some parent =>
              intro m
              show (asked ++ [Query.isRejected parent]).filter Query.changesLedger = []
              rw [List.filter_append, first]
              rfl

end Ledger

namespace Service

/-! ## What has been looked at -/

/-- The text is verified and good for a purpose. -/
def Admits (s : Service) (now : Time) (wanted : Scope) (text : String) : Prop :=
  ∃ claims, Token.verify s.config.key now text = .ok claims ∧ claims.hasScope wanted = true

/-- Whoever is accepted with a signed token has presented one for access. -/
theorem authenticateSigned_gives (now : Time) (text : String) :
    (s.authenticateSigned now text).Gives answer fun _ => s.Admits now .access text := by
  unfold authenticateSigned
  cases verified : Token.verify s.config.key now text with
  | error e => exact Flow.gives_throw _
  | ok claims =>
      refine Flow.Gives.guard fun scope => ?_
      have admitted : s.Admits now .access text := ⟨claims, verified, by simpa using scope⟩
      refine Flow.Gives.bind (Flow.gives_true _) fun rejected _ => ?_
      exact Flow.Gives.guard fun _ => Flow.gives_pure admitted

/-- A refresh that ends well was given a token for refreshing, and has signed an access token that
is derived from it. -/
theorem refresh_gives (headers : Headers) (requestedTtl : Nat) (redirect : Option String) :
    (s.refresh o headers requestedTtl redirect).Gives answer fun session =>
      ∃ text claims user roles kind,
        Http.Cookie.find? headers s.config.refreshCookie = some text ∧
        Token.verify s.config.key o.now text = .ok claims ∧ claims.hasScope .refresh = true ∧
        Token.sign s.config.algorithm s.config.key (Token.accessClaims s.config o.now o.accessId
          user roles requestedTtl (some claims.id) kind) = .ok session.accessToken.token := by
  unfold refresh refreshSigned
  cases given : Http.Cookie.find? headers s.config.refreshCookie with
  | none => exact CookieFlow.gives_throw _
  | some text =>
      simp only
      cases verified : Token.verify s.config.key o.now text with
      | error e => exact CookieFlow.gives_throw _
      | ok claims =>
          refine CookieFlow.Gives.guard fun unscoped => ?_
          have scope : claims.hasScope .refresh = true := by simpa using unscoped
          refine CookieFlow.Gives.bind (CookieFlow.gives_true _) fun rejected _ => ?_
          refine CookieFlow.Gives.guard fun _ => ?_
          refine CookieFlow.Gives.bind (CookieFlow.gives_true _) fun user _ => ?_
          refine CookieFlow.Gives.bind (CookieFlow.gives_true _) fun roles _ => ?_
          refine CookieFlow.Gives.bind (CookieFlow.gives_issuing fun _ _ _ ended =>
            (Token.issueAccess_ok ended).1) fun issued signed => ?_
          exact CookieFlow.gives_pure ⟨text, claims, user, roles, _, rfl, verified, scope, signed⟩

/-- The user of the second step has presented a token for the second step. -/
theorem secondFactorUser_gives (now : Time) (text code : String) :
    (s.secondFactorUser now text code).Gives answer fun _ => s.Admits now .pending text := by
  unfold secondFactorUser
  cases verified : Token.verify s.config.key now text with
  | error e => exact Flow.gives_throw _
  | ok claims =>
      refine Flow.Gives.guard fun scope => ?_
      have admitted : s.Admits now .pending text := ⟨claims, verified, by simpa using scope⟩
      exact Flow.Gives.bind (Flow.gives_true _) fun user _ =>
        Flow.gives_of_forall _ fun _ => admitted

/-- The tokens of a session were signed for a user. -/
def IsSigned (s : Service) (o : Occasion) (request : LoginRequest) (user : User)
    (kind : LoginKind) (session : Session) : Prop :=
  ∃ roles parent, Begun s o request user roles kind session.refreshToken parent ∧
    Token.sign s.config.algorithm s.config.key (Token.accessClaims s.config o.now o.accessId user
      roles request.requestedTtl parent kind) = .ok session.accessToken.token

/-- What is signed when a session begins. -/
theorem establish_gives (request : LoginRequest) (user : User) (kind : LoginKind) :
    (s.establish o request user kind).Gives answer (s.IsSigned o request user kind) := by
  have continued (roles : List Role) (refreshToken : Option IssuedToken)
      (begun : Begun s o request user roles kind refreshToken (refreshToken.map (·.id))) :
      CookieFlow.Gives answer (s.IsSigned o request user kind) (do
        let accessToken ← issuing <|
          Token.issueAccess s.config o.now o.accessId user roles request.requestedTtl
            (refreshToken.map (·.id)) kind true
        return ⟨user.id, kind, accessToken, refreshToken, s.redirectTarget request.redirect⟩) := by
    refine CookieFlow.Gives.bind (CookieFlow.gives_issuing fun _ _ _ ended =>
      (Token.issueAccess_ok ended).1) fun accessToken signed => ?_
    exact CookieFlow.gives_pure ⟨roles, _, begun, signed⟩
  unfold establish
  refine CookieFlow.Gives.bind (CookieFlow.gives_true _) fun roles _ => ?_
  simp only
  split
  · rename_i wanted
    refine CookieFlow.Gives.bind (CookieFlow.gives_issuing fun _ _ _ ended =>
      Token.issueRefresh_ok ended) ?_
    rintro issued ⟨signed, hid⟩
    refine continued roles (some issued) ?_
    have begun := Begun.withRefresh issued wanted signed
    rw [← hid] at begun
    exact begun
  · rename_i unwanted
    exact continued roles none (.alone (by simpa using unwanted))

/-- What a step of a login has signed when it ends well. -/
inductive LoginGives (s : Service) (o : Occasion) (request : LoginRequest) : LoginOutcome → Prop
  | pending {name password : String} {user : User} {token : IssuedToken}
      (credential : request.credential = .password name password)
      (signed : Token.sign s.config.algorithm s.config.key
        (Token.pendingClaims s.config o.now o.pendingId user) = .ok token.token) :
      LoginGives s o request (.secondFactorRequired token)
  | established {user : User} {kind : LoginKind} {session : Session}
      (admitted : ∀ text code, request.credential = .secondFactor text code →
        s.Admits o.now .pending text)
      (signed : s.IsSigned o request user kind session) :
      LoginGives s o request (.established session)

/-- A step of a login that ends well has signed what it gives. -/
theorem login_gives (request : LoginRequest) (current : Option Principal) :
    (s.login o request current).Gives answer (s.LoginGives o request) := by
  unfold login
  refine CookieFlow.Gives.bind (CookieFlow.gives_true _) fun _ _ => ?_
  cases credential : request.credential with
  | password name password =>
      refine CookieFlow.Gives.bind (CookieFlow.gives_true _) fun user _ => ?_
      split
      · refine CookieFlow.Gives.bind (CookieFlow.gives_issuing fun _ _ _ ended =>
          (Token.issue_ok ended).1) fun token signed => ?_
        exact CookieFlow.gives_pure (.pending credential signed)
      · refine CookieFlow.Gives.bind (establish_gives request user .password)
          fun session signed => CookieFlow.gives_pure (.established ?_ signed)
        intro text code other
        cases credential.symm.trans other
  | secondFactor token code =>
      refine CookieFlow.Gives.bind
        (CookieFlow.gives_withCookies (secondFactorUser_gives o.now token code))
        fun user admitted => ?_
      refine CookieFlow.Gives.bind (establish_gives request user .mfa)
        fun session signed => CookieFlow.gives_pure (.established ?_ signed)
      intro text code' same
      cases credential.symm.trans same
      exact admitted

/-! ## What is written -/

/-- The changes of the ledger that end the session that a request comes with, if it does. -/
def endingChanges (s : Service) (ended : Option Claims) : List Query :=
  (ended.map (Ledger.endingQueries s.config)).getD []

/-- The flow that ends a session writes just for that. -/
theorem endSession_writes (claims : Claims) :
    CookieFlow.Writes (Ledger.endingQueries s.config claims)
      (Flow.withCookies (Flow.fetch (Ledger.endSession s.config claims))) := by
  refine CookieFlow.writes_withCookies (Flow.writes_fetch ?_)
  refine (Ledger.endSession_ends s.config claims).mono fun asked _ written => ?_
  rw [written, Ledger.filter_endingQueries]

theorem endCurrent_writes (current : Option Principal) :
    (s.endCurrent current).Writes
      (s.endingChanges ((current.filter (·.source == .session)).map (·.claims))) := by
  unfold endCurrent
  cases current.filter (·.source == .session) with
  | none => exact CookieFlow.writes_pure ()
  | some p => exact (endSession_writes p.claims).bind fun _ => CookieFlow.writes_issuing _

theorem activeUser_writes (userId : String) : (Flow.activeUser userId).Writes [] := by
  refine Flow.Writes.bind (Flow.Writes.bind (Flow.writes_lookup? fun _ => rfl) fun _ =>
    Flow.writes_pure _) fun found => ?_
  cases found with
  | none => exact Flow.writes_throw _
  | some user => exact Flow.writes_pure _

theorem loginUser?_writes (name : String) : (s.loginUser? name).Writes [] := by
  unfold loginUser?
  simp only
  split
  · exact Flow.writes_pure _
  · refine Flow.Writes.bind (Flow.writes_lookup? fun _ => rfl) fun found => ?_
    cases found with
    | some user => exact Flow.writes_pure _
    | none =>
        simp only
        split
        · exact Flow.writes_pure _
        · refine Flow.Writes.bind (Flow.writes_lookup? fun _ => rfl) fun found => ?_
          cases found <;> exact Flow.writes_pure _

theorem passwordUser_writes (name password : String) :
    (s.passwordUser name password).Writes [] := by
  refine Flow.Writes.bind (loginUser?_writes name) fun found => ?_
  cases found with
  | none => exact Flow.writes_throw _
  | some user =>
      simp only
      split
      · exact Flow.writes_pure _
      · exact Flow.writes_throw _

theorem secondFactorUser_writes (now : Time) (text code : String) :
    (s.secondFactorUser now text code).Writes [] := by
  have taken (userId : String) : (takeRecoveryCode userId code).Writes [] := by
    unfold takeRecoveryCode
    split
    · exact Flow.writes_fetch fun _ => rfl
    · exact Flow.writes_pure _
  unfold secondFactorUser
  split
  · exact Flow.writes_throw _
  · refine Flow.Writes.guard (Flow.Writes.bind (activeUser_writes _) fun user => ?_)
    split
    · exact Flow.writes_throw _
    · split
      · exact Flow.writes_pure _
      · refine Flow.Writes.bind (taken user.id) fun fits => ?_
        split
        · exact Flow.writes_pure _
        · exact Flow.writes_throw _

theorem establish_writes (request : LoginRequest) (user : User) (kind : LoginKind) :
    (s.establish o request user kind).Writes [] := by
  have continued (roles : List Role) (refreshToken : Option IssuedToken) :=
    (CookieFlow.writes_issuing (Token.issueAccess s.config o.now o.accessId user roles
      request.requestedTtl (refreshToken.map (·.id)) kind true)).bind fun accessToken =>
        CookieFlow.writes_pure (Session.mk user.id kind accessToken refreshToken
          (s.redirectTarget request.redirect))
  unfold establish
  refine CookieFlow.Writes.bind
    (CookieFlow.writes_withCookies (Flow.writes_fetch fun _ => rfl)) fun roles => ?_
  simp only
  split
  · exact (CookieFlow.writes_issuing _).bind fun issued => continued roles (some issued)
  · exact continued roles none

/-- A login writes just to end the session that it comes with. -/
theorem login_writes (request : LoginRequest) (current : Option Principal) :
    (s.login o request current).Writes
      (s.endingChanges ((current.filter (·.source == .session)).map (·.claims))) := by
  unfold login
  refine CookieFlow.Writes.bind (endCurrent_writes current) fun _ => ?_
  cases request.credential with
  | password name password =>
      refine CookieFlow.Writes.bind
        (CookieFlow.writes_withCookies (passwordUser_writes name password)) fun user => ?_
      split
      · exact (CookieFlow.writes_issuing _).bind fun _ => CookieFlow.writes_pure _
      · exact (establish_writes request user .password).bind fun _ => CookieFlow.writes_pure _
  | secondFactor token code =>
      refine CookieFlow.Writes.bind
        (CookieFlow.writes_withCookies (secondFactorUser_writes o.now token code)) fun user => ?_
      exact (establish_writes request user .mfa).bind fun _ => CookieFlow.writes_pure _

/-- A refresh writes nothing. -/
theorem refresh_writes (headers : Headers) (requestedTtl : Nat) (redirect : Option String) :
    (s.refresh o headers requestedTtl redirect).Writes [] := by
  unfold refresh refreshSigned
  split
  · exact CookieFlow.writes_throw _
  · split
    · exact CookieFlow.writes_throw _
    · refine CookieFlow.Writes.guard (CookieFlow.Writes.bind (CookieFlow.writes_withCookies
        (Flow.writes_fetch (Ledger.isRejected_ends _))) fun rejected => ?_)
      refine CookieFlow.Writes.guard (CookieFlow.Writes.bind (CookieFlow.writes_withCookies
        (activeUser_writes _)) fun user => ?_)
      refine CookieFlow.Writes.bind
        (CookieFlow.writes_withCookies (Flow.writes_fetch fun _ => rfl)) fun roles => ?_
      exact (CookieFlow.writes_issuing _).bind fun issued => CookieFlow.writes_pure _

/-- A logout writes just to end its session. -/
theorem logout_writes (p : Principal) :
    (s.logout p).Writes
      (s.endingChanges (((some p).filter (·.source == .session)).map (·.claims))) := by
  obtain ⟨claims, source⟩ := p
  unfold logout
  cases source with
  | session => exact (endSession_writes claims).bind fun _ => CookieFlow.writes_issuing _
  | apiToken id roles => exact CookieFlow.writes_throw _

end Service

end Gatehouse.Access
