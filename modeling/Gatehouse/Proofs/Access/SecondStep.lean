import Gatehouse.Proofs.Access.Requests

/-!
# Second factors - What the second step asks

The second step of a login reads the record of the user whom its token names, and only when the code
is not accepted for the secret in that record, it asks once to take it as a recovery code.  This is so
whatever other requests do between its queries.

Main definitions:

- `SecondFactorTells`: the exchanges in which a second factor is checked.
- `SecondStepTells`: the exchanges of a second step.
- `Took`: a single recovery code was taken, and why.
- `StepEffect`: what a query of a second step does to the store.

Main results:

- Theorem `Service.secondFactorUser_tells` and theorem `Service.login_tells`: what is asked.
- Theorem `SecondStepTells.taken_cases`: which codes are taken, and who gets a session.
- Theorem `SecondStepTells.effect`: nothing else changes but the ledger.
-/

namespace Gatehouse.Store

/-- The record that is read with a query, if one is. -/
def Exchange.record? : Exchange → Option User
  | ⟨.userById _, .ok user⟩ => some user
  | _ => none

end Gatehouse.Store

namespace Gatehouse.Access

open Http (Headers)
open Store (Action Asking Exchange Memory Query Role User)
open Token (Claims IssuedToken LoginKind Time)

variable {s : Service} {now : Time} {text code : String}

/-! ## What the second step asks -/

/-- The store in memory has a record with an id or none. -/
theorem Flow.userById_tells (userId : String) :
    (Flow.lookup? (Asking.userById userId)).Tells fun told r =>
      ∃ reply, told = [⟨.userById userId, reply⟩] ∧ (r = .ok none ∨
        ∃ user : User, user.id = userId ∧ reply = .ok user ∧ r = .ok (some user)) where
  ends m := by
    have answer : (m.answer (.userById userId)).1 = .error .notFound ∨
        ∃ user : User, user.id = userId ∧ (m.answer (.userById userId)).1 = .ok user := by
      show Memory.found ((m.users.find? userId).map m.withEmail) = _ ∨ ∃ user : User, _ ∧
        Memory.found ((m.users.find? userId).map m.withEmail) = .ok user
      cases found : m.users.find? userId with
      | none => exact .inl rfl
      | some record =>
          have own : record.id = userId := Register.nameOf_of_find? found
          exact .inr ⟨m.withEmail record, own, rfl⟩
    generalize (m.answer (.userById userId)).1 = reply at answer ⊢
    rcases answer with rfl | ⟨user, hid, rfl⟩
    · exact ⟨_, rfl, .inl rfl⟩
    · exact ⟨_, rfl, .inr ⟨user, hid, rfl, rfl⟩⟩

/-- The active user with an id is read from the record with that id. -/
theorem Flow.activeUser_tells (userId : String) :
    (Flow.activeUser userId).Tells fun told r => ∃ reply, told = [⟨.userById userId, reply⟩] ∧
      (r = .error .unauthenticated ∨
        ∃ user : User, user.id = userId ∧ reply = .ok user ∧ r = .ok user) := by
  have active : (Flow.activeUser? userId).Tells fun told r =>
      ∃ reply, told = [⟨.userById userId, reply⟩] ∧ (r = .ok none ∨
        ∃ user : User, user.id = userId ∧ reply = .ok user ∧ r = .ok (some user)) := by
    refine Flow.Tells.bind (Flow.userById_tells userId) ?_ ?_
    · rintro told e ⟨reply, -, ended | ⟨user, -, -, ended⟩⟩
      · cases ended
      · cases ended
    · rintro told found ⟨reply, rfl, ended | ⟨user, own, rfl, ended⟩⟩
      · cases ended
        exact Flow.tells_pure ⟨_, rfl, .inl rfl⟩
      · cases ended
        refine Flow.tells_pure ⟨_, rfl, ?_⟩
        cases deleted : user.deleted with
        | true => exact .inl (by simp [Option.filter, deleted])
        | false => exact .inr ⟨user, own, rfl, by simp [Option.filter, deleted]⟩
  refine Flow.Tells.bind active ?_ ?_
  · rintro told e ⟨reply, -, ended | ⟨user, -, -, ended⟩⟩
    · cases ended
    · cases ended
  · rintro told found ⟨reply, rfl, ended | ⟨user, own, rfl, ended⟩⟩
    · cases ended
      exact Flow.tells_throw ⟨_, rfl, .inl rfl⟩
    · cases ended
      exact Flow.tells_pure ⟨_, rfl, .inr ⟨user, own, rfl, rfl⟩⟩

/-- The exchanges in which a second factor is checked. -/
inductive SecondFactorTells (s : Service) (now : Time) (text code : String) :
    List Exchange → Except Error User → Prop
  /-- The token is not good for the second step. -/
  | denied : SecondFactorTells s now text code [] (.error .unauthenticated)
  /-- There is no such user, or nothing to check the code against, or the text is no code. -/
  | unfit {userId : String} {reply : Store.Reply (.userById userId)} :
      SecondFactorTells s now text code [⟨.userById userId, reply⟩] (.error .unauthenticated)
  /-- The code is accepted for the secret of the user. -/
  | accepted {userId : String} {user : User} {secret : String}
      (enrolled : user.totpSecret = some secret)
      (accepts : s.acceptsCode secret now code = true) :
      SecondFactorTells s now text code [⟨.userById userId, .ok user⟩] (.ok user)
  /-- The code is not accepted, and is asked for as a recovery code of the user. -/
  | asked {claims : Claims} {user : User} {secret digest : String}
      (verified : Token.verify s.config.key now text = .ok claims)
      (pending : claims.hasScope .pending = true) (owner : user.id = claims.subject)
      (enrolled : user.totpSecret = some secret) (refuses : s.acceptsCode secret now code = false)
      (read : Credential.RecoveryCode.digest? code = some digest) (taken : Bool) :
      SecondFactorTells s now text code
        [⟨.userById claims.subject, .ok user⟩, ⟨.takeRecoveryCode user.id digest, .ok taken⟩]
        (if taken then .ok user else .error .unauthenticated)

/-- The exchanges of a second step that ends a session with the queries `ending`. -/
inductive SecondStepTells (s : Service) (now : Time) (text code : String) (ending : List Query) :
    List Exchange → Except Error LoginOutcome → Prop
  /-- The cookies of the session that has ended cannot be cleared. -/
  | stuck {told : List Exchange} (ended : told.map Exchange.query = ending) (e : Error) :
      SecondStepTells s now text code ending told (.error e)
  | refused {told checked : List Exchange} {e : Error}
      (ended : told.map Exchange.query = ending)
      (checks : SecondFactorTells s now text code checked (.error e)) :
      SecondStepTells s now text code ending (told ++ checked) (.error e)
  /-- A session begins, if its tokens can be issued. -/
  | passed {told checked : List Exchange} {user : User} {r : Except Error LoginOutcome}
      {reply : Store.Reply (.rolesOfUser user.id)} (ended : told.map Exchange.query = ending)
      (checks : SecondFactorTells s now text code checked (.ok user))
      (established : ∀ outcome, r = .ok outcome → ∃ session, outcome = .established session ∧
        session.userId = user.id)
      (failed : ∀ e, r = .error e → ∃ detail, e = .internal detail) :
      SecondStepTells s now text code ending (told ++ checked ++ [⟨.rolesOfUser user.id, reply⟩]) r

namespace Service

/-- The exchanges in which a second factor is checked. -/
theorem secondFactorUser_tells (now : Time) (text code : String) :
    (s.secondFactorUser now text code).Tells (SecondFactorTells s now text code) := by
  unfold secondFactorUser
  cases verified : Token.verify s.config.key now text with
  | error e => exact Flow.tells_throw .denied
  | ok claims =>
      simp only
      cases scope : claims.hasScope .pending with
      | false => exact Flow.tells_throw .denied
      | true =>
          simp only [Bool.not_true, Bool.false_eq_true, if_false]
          refine Flow.Tells.bind (Flow.activeUser_tells claims.subject) ?_ ?_
          · rintro told e ⟨reply, rfl, failed | ⟨user, -, -, ended⟩⟩
            · cases failed
              exact .unfit
            · cases ended
          · rintro told user ⟨reply, rfl, failed | ⟨user, owner, rfl, ⟨⟩⟩⟩
            · cases failed
            · cases given : user.totpSecret.filter (!·.isEmpty) with
              | none => exact Flow.tells_throw .unfit
              | some secret =>
                  obtain ⟨enrolled, -⟩ := Option.filter_eq_some_iff.1 given
                  simp only
                  cases accepts : s.acceptsCode secret now code with
                  | true => exact Flow.tells_pure (.accepted enrolled accepts)
                  | false =>
                      rw [if_neg nofun]
                      unfold takeRecoveryCode
                      cases read : Credential.RecoveryCode.digest? code with
                      | none => exact Flow.tells_throw .unfit
                      | some digest =>
                          simp only
                          refine Flow.Tells.bind (Flow.tells_fetch
                            (.takeRecoveryCode user.id digest) fun m => ⟨_, rfl⟩) ?_ ?_
                          · rintro told e ⟨taken, -, ⟨⟩⟩
                          · rintro told taken ⟨_, rfl, ⟨⟩⟩
                            have asked := SecondFactorTells.asked verified scope owner enrolled
                              accepts read taken
                            cases taken with
                            | true => exact Flow.tells_pure asked
                            | false => exact Flow.tells_throw asked

/-- The session that a request comes with is ended first. -/
theorem endCurrent_tells (current : Option Principal) :
    (s.endCurrent current).Tells fun told _ => told.map Exchange.query =
      s.endingChanges ((current.filter (·.source == .session)).map (·.claims)) := by
  unfold endCurrent
  cases current.filter (·.source == .session) with
  | none => exact CookieFlow.tells_pure rfl
  | some p =>
      refine CookieFlow.Tells.bind (CookieFlow.tells_withCookies
        (Flow.tells_fetch_of_ends (Ledger.endSession_ends s.config p.claims)))
        (fun _ _ ended => ended) fun told _ ended => ?_
      refine (CookieFlow.tells_issuing _).mono ?_
      rintro _ r ⟨rfl, -⟩
      rw [List.append_nil]
      exact ended

/-- A session of the user begins, unless a token cannot be issued. -/
structure Begins (user : User) (r : Except Error Session) : Prop where
  owner : ∀ session, r = .ok session → session.userId = user.id
  failed : ∀ e, r = .error e → ∃ detail, e = .internal detail

/-- A session begins once the roles of its user are known. -/
theorem establish_tells {o : Occasion} (request : LoginRequest) (user : User) (kind : LoginKind) :
    (s.establish o request user kind).Tells fun told r =>
      ∃ roles, told = [⟨.rolesOfUser user.id, .ok roles⟩] ∧ Begins user r := by
  have continued (roles : List Role) (refreshToken : Option IssuedToken) :
      CookieFlow.Tells (fun told r => told = [] ∧ Begins user r) (do
        let accessToken ← issuing <|
          Token.issueAccess s.config o.now o.accessId user roles request.requestedTtl
            (refreshToken.map (·.id)) kind true
        return ⟨user.id, kind, accessToken, refreshToken, s.redirectTarget request.redirect⟩) := by
    refine CookieFlow.Tells.bind (CookieFlow.tells_issuing _) ?_ ?_
    · rintro told e ⟨rfl, failed⟩
      exact ⟨rfl, nofun, fun _ same => failed _ (by cases same; rfl)⟩
    · rintro told accessToken ⟨rfl, -⟩
      refine CookieFlow.tells_pure ⟨rfl, ?_, nofun⟩
      rintro _ ⟨⟩
      rfl
  unfold establish
  refine CookieFlow.Tells.bind (CookieFlow.tells_withCookies
    (Flow.tells_fetch (.rolesOfUser user.id) fun m => ⟨_, rfl⟩)) ?_ ?_
  · rintro told e ⟨roles, -, ⟨⟩⟩
  · rintro told roles ⟨_, rfl, ⟨⟩⟩
    have known {told : List Exchange} {r : Except Error Session} (h : told = [] ∧ Begins user r) :
        ∃ roles', [⟨.rolesOfUser user.id, .ok roles⟩] ++ told =
          [(⟨.rolesOfUser user.id, .ok roles'⟩ : Exchange)] ∧ Begins user r := by
      obtain ⟨rfl, begins⟩ := h
      exact ⟨roles, rfl, begins⟩
    refine CookieFlow.Tells.mono ?_ fun told r => known
    simp only
    split
    · refine CookieFlow.Tells.bind (CookieFlow.tells_issuing _) ?_ ?_
      · rintro told e ⟨rfl, failed⟩
        exact ⟨rfl, nofun, fun _ same => failed _ (by cases same; rfl)⟩
      · rintro told issued ⟨rfl, -⟩
        exact continued roles (some issued)
    · exact continued roles none

/-- The exchanges of a second step. -/
theorem login_tells {o : Occasion} {request : LoginRequest}
    (credential : request.credential = .secondFactor text code) (current : Option Principal) :
    (s.login o request current).Tells (SecondStepTells s o.now text code
      (s.endingChanges ((current.filter (·.source == .session)).map (·.claims)))) := by
  unfold login
  refine CookieFlow.Tells.bind (endCurrent_tells current) (fun _ e ended => .stuck ended e) ?_
  intro told _ ended
  simp only [credential]
  refine CookieFlow.Tells.bind (CookieFlow.tells_withCookies
    (secondFactorUser_tells o.now text code)) (fun _ _ checks => .refused ended checks) ?_
  intro checked user checks
  refine CookieFlow.Tells.bind (establish_tells request user .mfa) ?_ ?_
  · rintro _ e ⟨roles, rfl, begins⟩
    rw [← List.append_assoc]
    refine .passed ended checks nofun ?_
    rintro _ ⟨⟩
    exact begins.failed e rfl
  · rintro _ session ⟨roles, rfl, begins⟩
    refine CookieFlow.tells_pure ?_
    rw [List.append_nil, ← List.append_assoc]
    refine .passed ended checks ?_ nofun
    rintro _ ⟨⟩
    exact ⟨session, rfl, begins.owner session rfl⟩

end Service

/-! ## Which codes are taken -/

/-- In a record that was read there is a secret for which the code is accepted. -/
def Service.accepts (s : Service) (now : Time) (code : String) (told : List Exchange) : Bool :=
  (told.filterMap Exchange.record?).any fun user =>
    user.totpSecret.any fun secret => s.acceptsCode secret now code

/-- A single recovery code was taken: the one that was presented, from the user whom the token names,
and not before it was refused as a one-time code. -/
structure Took (s : Service) (now : Time) (text code : String) (told : List Exchange)
    (userId digest : String) : Prop where
  only : told.filterMap Exchange.taken? = [(userId, digest)]
  owner : ∃ claims, Token.verify s.config.key now text = .ok claims ∧
    claims.hasScope .pending = true ∧ claims.subject = userId
  read : Credential.RecoveryCode.digest? code = some digest
  needed : s.accepts now code told = false

/-- Either no code is taken, and nobody passes without having the code accepted, or one is, and its
user passes. -/
theorem SecondFactorTells.taken_cases {told : List Exchange} {r : Except Error User}
    (h : SecondFactorTells s now text code told r) :
    (told.filterMap Exchange.taken? = [] ∧
        ∀ user, r = .ok user → s.accepts now code told = true) ∨
      ∃ user digest, Took s now text code told user.id digest ∧ r = .ok user := by
  cases h with
  | denied => exact .inl ⟨rfl, nofun⟩
  | unfit => exact .inl ⟨rfl, nofun⟩
  | accepted enrolled accepts =>
      refine .inl ⟨rfl, fun _ _ => ?_⟩
      simp [Service.accepts, Exchange.record?, enrolled, accepts]
  | @asked claims user secret digest verified pending owner enrolled refuses read taken =>
      cases taken with
      | false => exact .inl ⟨rfl, nofun⟩
      | true =>
          refine .inr ⟨user, digest, ⟨rfl, ⟨claims, verified, pending, owner.symm⟩, read, ?_⟩, rfl⟩
          simp [Service.accepts, Exchange.record?, enrolled, refuses]

/-- All that is asked to end a session is to write rows of the ledger. -/
theorem Service.exists_of_mem_endingChanges {ended : Option Claims} {q : Query}
    (h : q ∈ s.endingChanges ended) : ∃ row, q = .reject row := by
  cases ended with
  | none => cases h
  | some claims =>
      rcases List.mem_cons.1 h with rfl | h
      · exact ⟨_, rfl⟩
      · cases parent : claims.parent? with
        | none =>
            rw [parent] at h
            cases h
        | some id =>
            rw [parent] at h
            exact ⟨_, List.mem_singleton.1 h⟩

/-- The exchanges take and read the same. -/
structure Alike (told told' : List Exchange) : Prop where
  taken : told.filterMap Exchange.taken? = told'.filterMap Exchange.taken?
  read : told.filterMap Exchange.record? = told'.filterMap Exchange.record?

section

variable {ended : Option Claims} {told told' : List Exchange} {r : Except Error LoginOutcome}
  {ending : List Query} {userId digest : String}

/-- Writing a row takes no code and reads no record. -/
theorem Alike.of_reject {e : Exchange} {row : Store.Rejection} (h : e.query = .reject row) :
    Alike (e :: told) told := by
  obtain ⟨q, reply⟩ := e
  subst h
  exact ⟨rfl, rfl⟩

/-- Ending a session takes no codes and reads no records. -/
theorem Alike.of_ending (h : told.map Exchange.query = s.endingChanges ended)
    (rest : List Exchange) : Alike (told ++ rest) rest := by
  have writes : ∀ e ∈ told, ∃ row, e.query = .reject row := fun e he =>
    s.exists_of_mem_endingChanges (h ▸ List.mem_map_of_mem he)
  clear h
  induction told with
  | nil => exact ⟨rfl, rfl⟩
  | cons e told ih =>
      obtain ⟨row, same⟩ := writes e List.mem_cons_self
      have first : Alike (e :: (told ++ rest)) (told ++ rest) := .of_reject same
      have others := ih fun e he => writes e (List.mem_cons_of_mem _ he)
      exact ⟨first.taken.trans others.taken, first.read.trans others.read⟩

/-- Looking for the roles takes no code and reads no record. -/
theorem Alike.of_roles {reply : Store.Reply (.rolesOfUser userId)} :
    Alike (told ++ [⟨.rolesOfUser userId, reply⟩]) told := by
  constructor
  · rw [List.filterMap_append]
    exact List.append_nil _
  · rw [List.filterMap_append]
    exact List.append_nil _

theorem Alike.accepts (h : Alike told told') :
    s.accepts now code told = s.accepts now code told' := by
  rw [Service.accepts, h.read, Service.accepts]

theorem Alike.took (h : Alike told told') (took : Took s now text code told' userId digest) :
    Took s now text code told userId digest :=
  ⟨h.taken.trans took.only, took.owner, took.read, h.accepts.trans took.needed⟩

/-- Either no code is taken, and no session begins without having the code accepted, or one is, and
the session is one of its user. -/
theorem SecondStepTells.taken_cases
    (h : SecondStepTells s now text code (s.endingChanges ended) told r) :
    (told.filterMap Exchange.taken? = [] ∧
        ∀ session, r = .ok (.established session) → s.accepts now code told = true) ∨
      ∃ userId digest, Took s now text code told userId digest ∧ r ≠ .error .unauthenticated ∧
        ∀ session, r = .ok (.established session) → session.userId = userId := by
  cases h with
  | stuck ended e =>
      have alike := Alike.of_ending ended []
      rw [List.append_nil] at alike
      exact .inl ⟨alike.taken, nofun⟩
  | refused ended checks =>
      rcases checks.taken_cases with ⟨untaken, -⟩ | ⟨user, digest, -, passes⟩
      · exact .inl ⟨(Alike.of_ending ended _).taken.trans untaken, nofun⟩
      · cases passes
  | @passed before checked user r reply ended checks established failed =>
      have roles : Alike (before ++ checked ++ [⟨.rolesOfUser user.id, reply⟩])
          (before ++ checked) := .of_roles
      have others := Alike.of_ending ended checked
      have alike : Alike (before ++ checked ++ [⟨.rolesOfUser user.id, reply⟩]) checked :=
        ⟨roles.taken.trans others.taken, roles.read.trans others.read⟩
      rcases checks.taken_cases with ⟨untaken, accepted⟩ | ⟨_, digest, took, passes⟩
      · exact .inl ⟨alike.taken.trans untaken, fun _ _ => alike.accepts.trans (accepted user rfl)⟩
      · cases passes
        refine .inr ⟨user.id, digest, alike.took took, ?_, ?_⟩
        · rintro rfl
          obtain ⟨detail, other⟩ := failed _ rfl
          cases other
        · rintro session rfl
          obtain ⟨_, ⟨⟩, owner⟩ := established _ rfl
          exact owner

/-! ## What a query does to the store -/

/-- The queries of a second step. -/
theorem SecondStepTells.query_cases (h : SecondStepTells s now text code ending told r)
    {e : Exchange} (he : e ∈ told) :
    e.query ∈ ending ∨ (∃ id, e.query = .userById id) ∨ (∃ id, e.query = .rolesOfUser id) ∨
      ∃ userId digest, e.query = .takeRecoveryCode userId digest := by
  have ends {told : List Exchange} (ended : told.map Exchange.query = ending) (he : e ∈ told) :
      e.query ∈ ending := ended ▸ List.mem_map_of_mem he
  have checked {told : List Exchange} {r : Except Error User}
      (checks : SecondFactorTells s now text code told r) (he : e ∈ told) :
      (∃ id, e.query = .userById id) ∨
        ∃ userId digest, e.query = .takeRecoveryCode userId digest := by
    cases checks with
    | denied => cases he
    | unfit | accepted =>
        obtain rfl := List.mem_singleton.1 he
        exact .inl ⟨_, rfl⟩
    | asked =>
        rcases List.mem_pair.1 he with rfl | rfl
        · exact .inl ⟨_, rfl⟩
        · exact .inr ⟨_, _, rfl⟩
  cases h with
  | stuck ended e => exact .inl (ends ended he)
  | refused ended checks =>
      rcases List.mem_append.1 he with he | he
      · exact .inl (ends ended he)
      · exact .inr ((checked checks he).imp_right .inr)
  | passed ended checks established failed =>
      rcases List.mem_append.1 he with he | he
      · rcases List.mem_append.1 he with he | he
        · exact .inl (ends ended he)
        · exact .inr ((checked checks he).imp_right .inr)
      · obtain rfl := List.mem_singleton.1 he
        exact .inr (.inr (.inl ⟨_, rfl⟩))

/-- What a query of a second step does to the store, and the recovery code that it takes. -/
inductive StepEffect (ending : List Query) (m : Memory) : Option (String × String) → Memory → Prop
  | nothing : StepEffect ending m none m
  /-- A row that ends a session is written. -/
  | row {row : Store.Rejection} (ends : .reject row ∈ ending) :
      StepEffect ending m none { m with rejections := m.rejections.put row }
  /-- A code that the user had is deleted, and no other one. -/
  | code {userId digest : String} {codes : Table (List String)}
      (present : digest ∈ m.recoveryDigests userId)
      (only : ∀ user' digest',
        digest' ∈ Memory.recoveryDigests { m with recoveryCodes := codes } user' ↔
          digest' ∈ m.recoveryDigests user' ∧ (user', digest') ≠ (userId, digest)) :
      StepEffect ending m (some (userId, digest)) { m with recoveryCodes := codes }

/-- A query of a second step changes nothing in the store but the ledger and the recovery code that
it takes. -/
theorem SecondStepTells.effect
    (h : SecondStepTells s now text code (s.endingChanges ended) told r) {m : Memory} {q : Query}
    (asked : ⟨q, (m.answer q).1⟩ ∈ told) :
    StepEffect (s.endingChanges ended) m (Exchange.taken? ⟨q, (m.answer q).1⟩) (m.answer q).2 := by
  rcases h.query_cases asked with ends | ⟨id, rfl⟩ | ⟨id, rfl⟩ | ⟨userId, digest, rfl⟩
  · obtain ⟨row, rfl⟩ := s.exists_of_mem_endingChanges ends
    exact .row ends
  · exact .nothing
  · exact .nothing
  · show StepEffect _ _ (Exchange.taken? ⟨.takeRecoveryCode userId digest,
      .ok (m.takeRecoveryCode userId digest).1⟩) (m.takeRecoveryCode userId digest).2
    by_cases present : digest ∈ m.recoveryDigests userId
    · have rest := m.takeRecoveryCode_snd userId digest
      rw [Memory.takeRecoveryCode_fst, decide_eq_true present, rest]
      refine .code present fun user' digest' => ?_
      rw [← rest]
      exact Memory.mem_recoveryDigests_taken
    · rw [Memory.takeRecoveryCode_of_notMem present]
      exact .nothing

end

end Gatehouse.Access
