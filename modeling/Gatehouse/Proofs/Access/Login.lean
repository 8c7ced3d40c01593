import Gatehouse.Access.Login
import Gatehouse.Proofs.Access.Session
import Gatehouse.Proofs.Store.RecoveryCodes

/-!
# Login - What a step has checked

A step of a login ends in a session only for a user who passed all the checks of that step.  The
checks are told about the record that the store has of the user before the request.

Main definitions:

- `Memory.IsLoginName`: a text by which a user can log in.
- `PasswordChecked` and `SecondFactorChecked`: what the two steps have checked.
- `Service.SpendsCode`: what it takes for a second step to take a recovery code.

Main results:

- Theorem `Service.passwordUser_ok` and theorem `Service.secondFactorUser_ok`: the checks of the
  steps.
- Theorem `Service.login_ok`: how a step of a login that ends well came to its outcome.
- Theorem `Service.login_memory`: a login changes the store only for the session that it ends and the
  recovery code that it takes.
-/

namespace Gatehouse

namespace Store.Memory

/-- A text by which a user can log in: the user name, or a verified address where that is permitted
and the text is nobody's user name. -/
inductive IsLoginName (m : Memory) (byEmail : Bool) (user : User) (name : String) : Prop where
  | username (same : user.username = name)
  | address (permitted : byEmail = true) (unused : ∀ other ∈ m.users.data, other.username ≠ name)
      (email : StoredEmail) (own : email ∈ (m.emails.find? user.id).getD [])
      (verified : email.verified = true) (same : Text.eqIgnoreCase email.address name = true)

/-- The owner of an address has an address with the same letters, up to their case. -/
theorem exists_of_emailOwner? {m : Memory} {address userId : String} {verified : Bool}
    (h : m.emailOwner? address = some (userId, verified)) :
    ∃ email ∈ (m.emails.find? userId).getD [], email.verified = verified ∧
      Text.eqIgnoreCase email.address address = true := by
  obtain ⟨⟨owner, emails⟩, hentry, hfound⟩ := List.exists_of_findSome?_eq_some h
  obtain ⟨email, hemail, heq⟩ := Option.map_eq_some_iff.1 hfound
  obtain ⟨rfl, rfl⟩ := Prod.mk.inj heq
  rw [Table.find?_of_mem hentry]
  have same := List.find?_some hemail
  exact ⟨email, List.mem_of_find?_eq_some hemail, rfl, same⟩

/-- The active user who can log in by a text. -/
def loginUser? (m : Memory) (byEmail : Bool) (name : String) : Option User :=
  if name.isEmpty then none
  else
    match m.users.data.find? (·.username == name) with
    | some user => if user.deleted then none else some (m.withEmail user)
    | none =>
      if byEmail then
        (m.emailOwner? name).bind fun (userId, verified) =>
          ((m.users.find? userId).filter fun user => verified && !user.deleted).map m.withEmail
      else none

/-- Whoever can log in by a text has a record that is not deleted and is named by the text. -/
theorem exists_of_loginUser? {m : Memory} {byEmail : Bool} {name : String} {user : User}
    (h : m.loginUser? byEmail name = some user) :
    ∃ record, m.users.find? record.id = some record ∧ record.deleted = false ∧
      user = m.withEmail record ∧ m.IsLoginName byEmail record name := by
  unfold loginUser? at h
  split at h
  · cases h
  · split at h
    · rename_i record hname
      have stored := Register.find?_of_mem_data (List.mem_of_find?_eq_some hname)
      have same : record.username = name := by simpa using List.find?_some hname
      split at h
      · cases h
      · rename_i active
        exact ⟨record, stored, by simpa using active, (Option.some.inj h).symm, .username same⟩
    · rename_i hname
      have unused : ∀ other ∈ m.users.data, other.username ≠ name := by
        simpa using List.find?_eq_none.1 hname
      split at h
      · rename_i permitted
        obtain ⟨⟨userId, verified⟩, howner, hrecord⟩ := Option.bind_eq_some_iff.1 h
        obtain ⟨email, own, rfl, same⟩ := exists_of_emailOwner? howner
        obtain ⟨record, hfilter, rfl⟩ := Option.map_eq_some_iff.1 hrecord
        obtain ⟨hstored, accepted⟩ := Option.filter_eq_some_iff.1 hfilter
        obtain rfl : record.id = userId := Register.nameOf_of_find? hstored
        obtain ⟨verified, active⟩ := Bool.and_eq_true_iff.1 accepted
        exact ⟨record, hstored, by simpa using active, rfl,
          .address permitted unused email own verified same⟩
      · cases h

end Store.Memory

namespace Access

open Http (Headers)
open Store (Asking Memory Role User)
open Token (IssuedToken LoginKind Time)

variable {s : Service} {m m' : Memory} {o : Occasion} {now : Time} {out out' : Headers}

/-- What the password step has checked about a user. -/
structure PasswordChecked (s : Service) (m : Memory) (name password : String) (user : User) :
    Prop where
  stored : m.users.find? user.id = some user
  active : user.deleted = false
  fits : Credential.passwordMatches user.passwordHash password = true
  named : m.IsLoginName s.config.loginByEmail user (Text.trim name)

/-- What the second step has checked about a user; `m'` is the store after it. -/
structure SecondFactorChecked (s : Service) (m m' : Memory) (now : Time)
    (pendingToken code : String) (user : User) : Prop where
  stored : m.users.find? user.id = some user
  active : user.deleted = false
  pending : ∃ claims, Token.verify s.config.key now pendingToken = .ok claims ∧
    claims.hasScope .pending = true ∧ claims.subject = user.id
  factor : ∃ secret, user.totpSecret = some secret ∧ secret ≠ "" ∧
    (s.acceptsCode secret now code = true ∨
      ∃ digest, Credential.RecoveryCode.digest? code = some digest ∧
        digest ∈ m.recoveryDigests user.id ∧ digest ∉ m'.recoveryDigests user.id)

namespace Service

/-! ## The password step -/

/-- The user with a login name is looked up in the store. -/
theorem runOn_loginUser? (name : String) :
    (s.loginUser? name).runOn m =
      (.ok (m.loginUser? s.config.loginByEmail (Text.trim name)), m) := by
  unfold loginUser? Memory.loginUser?
  generalize Text.trim name = name
  cases blank : name.isEmpty with
  | true => simp [blank]
  | false =>
      have byName : (Flow.lookup? (Asking.userByName name)).runOn m =
          (.ok ((m.users.data.find? (·.username == name)).map m.withEmail), m) :=
        Flow.runOn_lookup? rfl
      simp only [blank, Bool.false_eq_true, if_false]
      rw [Flow.runOn_bind_ok byName]
      cases m.users.data.find? (·.username == name) with
      | some record => rfl
      | none =>
          cases s.config.loginByEmail with
          | false => rfl
          | true =>
              have byEmail : (Flow.lookup? (Asking.userByEmail name)).runOn m =
                  (.ok ((m.emailOwner? name).bind fun (id, verified) =>
                    (m.users.find? id).map fun user => (m.withEmail user, verified)), m) :=
                Flow.runOn_lookup? rfl
              simp only [Option.map_none, Bool.not_true, Bool.false_eq_true, if_false, if_true]
              rw [Flow.runOn_bind_ok byEmail]
              cases m.emailOwner? name with
              | none => rfl
              | some owner =>
                  obtain ⟨userId, verified⟩ := owner
                  cases stored : m.users.find? userId with
                  | none => simp [stored]
                  | some record =>
                      have kept : (m.withEmail record).deleted = record.deleted := rfl
                      cases deleted : record.deleted <;> cases verified <;>
                        simp [stored, deleted, kept, Option.filter]

/-- The password step ends well for a user whose password fits. -/
theorem passwordUser_ok {name password : String} {user : User}
    (h : (s.passwordUser name password).runOn m = (.ok user, m')) :
    m' = m ∧ ∃ record, user = m.withEmail record ∧ PasswordChecked s m name password record := by
  unfold passwordUser at h
  rw [Flow.runOn_bind_ok (runOn_loginUser? name)] at h
  cases found : m.loginUser? s.config.loginByEmail (Text.trim name) with
  | none =>
      simp only [found] at h
      cases h
  | some candidate =>
      obtain ⟨record, stored, active, rfl, named⟩ := Memory.exists_of_loginUser? found
      simp only [found] at h
      cases fits : Credential.passwordMatches (m.withEmail record).passwordHash password with
      | false =>
          simp only [fits] at h
          cases h
      | true =>
          simp only [fits] at h
          cases h
          exact ⟨rfl, record, rfl, stored, active, fits, named⟩

/-! ## The second step -/

/-- A recovery code that is taken was the user's and no longer is. -/
theorem takeRecoveryCode_ok {userId code : String}
    (h : (takeRecoveryCode userId code).runOn m = (.ok true, m')) :
    ∃ digest, Credential.RecoveryCode.digest? code = some digest ∧
      digest ∈ m.recoveryDigests userId ∧ digest ∉ m'.recoveryDigests userId := by
  unfold takeRecoveryCode at h
  cases hd : Credential.RecoveryCode.digest? code with
  | none =>
      simp only [hd] at h
      cases h
  | some digest =>
      simp only [hd] at h
      have asked : (Asking.takeRecoveryCode userId digest).runOn m =
          (.ok (m.takeRecoveryCode userId digest).1, (m.takeRecoveryCode userId digest).2) := rfl
      rw [Flow.runOn_fetch asked, Prod.mk.injEq, Except.ok.injEq] at h
      exact ⟨digest, rfl, Memory.takeRecoveryCode_true (Prod.ext h.1 h.2)⟩

/-- The second step ends well for a user whose code is right. -/
theorem secondFactorUser_ok {pendingToken code : String} {user : User}
    (h : (s.secondFactorUser now pendingToken code).runOn m = (.ok user, m')) :
    ∃ record, user = m.withEmail record ∧
      SecondFactorChecked s m m' now pendingToken code record := by
  unfold secondFactorUser at h
  cases hv : Token.verify s.config.key now pendingToken with
  | error e =>
      simp only [hv] at h
      cases h
  | ok claims =>
      simp only [hv] at h
      cases hs : claims.hasScope .pending with
      | false =>
          simp only [hs] at h
          cases h
      | true =>
          simp only [hs, Bool.not_true, Bool.false_eq_true, if_false] at h
          obtain ⟨candidate, m₁, hfound, h₁⟩ := Flow.exists_of_bind h
          obtain ⟨hactive, rfl⟩ := Flow.activeUser_ok hfound
          obtain ⟨record, rfl, hid, stored, active⟩ := Memory.exists_of_activeUser? hactive
          cases enrolled : (m₁.withEmail record).totpSecret.filter (!·.isEmpty) with
          | none =>
              simp only [enrolled] at h₁
              cases h₁
          | some secret =>
              simp only [enrolled] at h₁
              obtain ⟨hsecret, nonempty⟩ := Option.filter_eq_some_iff.1 enrolled
              have nonempty : secret ≠ "" := by simpa using nonempty
              have pending : ∃ claims, Token.verify s.config.key now pendingToken = .ok claims ∧
                  claims.hasScope .pending = true ∧ claims.subject = record.id :=
                ⟨claims, hv, hs, hid.symm⟩
              cases accepted : s.acceptsCode secret now code with
              | true =>
                  simp only [accepted, if_true] at h₁
                  cases h₁
                  exact ⟨record, rfl, hid ▸ stored, active, pending, secret, hsecret, nonempty,
                    .inl accepted⟩
              | false =>
                  simp only [accepted, Bool.false_eq_true, if_false] at h₁
                  obtain ⟨taken, m₂, htaken, h₂⟩ := Flow.exists_of_bind h₁
                  cases taken with
                  | false => cases h₂
                  | true =>
                      cases h₂
                      exact ⟨record, rfl, hid ▸ stored, active, pending, secret, hsecret,
                        nonempty, .inr (takeRecoveryCode_ok htaken)⟩

/-! ## Sessions that begin -/

/-- The refresh token of a session that begins, and what the access token was derived from. -/
inductive Begun (s : Service) (o : Occasion) (request : LoginRequest) (user : User)
    (roles : List Role) (kind : LoginKind) : Option IssuedToken → Option String → Prop where
  | alone (unwanted : request.withRefreshToken = false) : Begun s o request user roles kind none none
  | withRefresh (issued : IssuedToken) (wanted : request.withRefreshToken = true)
      (signed : Token.sign s.config.algorithm s.config.key
        (Token.refreshClaims s.config o.now o.refreshId user roles kind) = .ok issued.token) :
      Begun s o request user roles kind (some issued) (some o.refreshId)

/-- The access token of a session that begins was derived from the refresh token, if any. -/
theorem Begun.derived {request : LoginRequest} {user : User} {roles : List Role}
    {kind : LoginKind} {refreshToken : Option IssuedToken} {parent : Option String}
    (h : Begun s o request user roles kind refreshToken parent) :
    parent = none ∨ parent = some o.refreshId := by
  cases h with
  | alone unwanted => exact .inl rfl
  | withRefresh issued wanted signed => exact .inr rfl

/-- What is issued when a session begins. -/
theorem establish_ok {request : LoginRequest} {user : User} {kind : LoginKind} {session : Session}
    (h : (s.establish o request user kind).runOn out m = (.ok session, out', m')) :
    m' = m ∧ session.userId = user.id ∧ ∃ roles parent,
      Begun s o request user roles kind session.refreshToken parent ∧
      Token.sign s.config.algorithm s.config.key (Token.accessClaims s.config o.now o.accessId user
        roles request.requestedTtl parent kind) = .ok session.accessToken.token := by
  unfold establish at h
  obtain ⟨roles, m₁, hroles, h₁⟩ := CookieFlow.exists_of_withCookies_bind
    (x := Flow.fetch (Asking.rolesOfUser user.id)) h
  rw [Flow.runOn_rolesOfUser] at hroles
  cases hroles
  cases wanted : request.withRefreshToken with
  | false =>
      simp only [wanted, Bool.false_eq_true, if_false] at h₁
      obtain ⟨accessToken, out₁, haccess, h₂⟩ := CookieFlow.exists_of_issuing_bind h₁
      cases h₂
      exact ⟨rfl, rfl, _, none, .alone wanted, (Token.issueAccess_ok haccess).1⟩
  | true =>
      simp only [wanted, if_true] at h₁
      obtain ⟨refreshToken, out₁, hrefresh, h₂⟩ := CookieFlow.exists_of_issuing_bind h₁
      obtain ⟨accessToken, out₂, haccess, h₃⟩ := CookieFlow.exists_of_issuing_bind h₂
      obtain ⟨signed, hid⟩ := Token.issueRefresh_ok hrefresh
      cases h₃
      refine ⟨rfl, rfl, _, some o.refreshId, .withRefresh _ wanted signed, ?_⟩
      rw [← hid]
      exact (Token.issueAccess_ok haccess).1

/-! ## Logins -/

/-- The store after the session that a request arrives with ended. -/
def storeAfterCurrent (s : Service) (m : Memory) (current : Option Principal) : Memory :=
  match current.filter (·.source == .session) with
  | some principal => m.withEnded s.config principal.claims
  | none => m

/-- The session that a request arrives with ends, even where its cookies cannot be dropped. -/
theorem endCurrent_memory (s : Service) (current : Option Principal) (out : Headers) (m : Memory) :
    ((s.endCurrent current).runOn out m).2.2 = s.storeAfterCurrent m current := by
  unfold endCurrent storeAfterCurrent
  cases current.filter (·.source == .session) with
  | none => rfl
  | some p =>
      simp only
      rw [CookieFlow.runOn_bind_ok (runOn_endSession p.claims)]
      exact CookieFlow.issuing_memory _ _ _

/-- Ending a session adds no cookies but such as make the browser drop others. -/
theorem endCurrent_lines (s : Service) (current : Option Principal) (out : Headers) (m : Memory) :
    ∃ added, ((s.endCurrent current).runOn out m).2.1.lines = out.lines ++ added ∧
      ∀ line ∈ added, Token.DropsCookie s.config line := by
  unfold endCurrent
  cases current.filter (·.source == .session) with
  | none => exact ⟨[], (List.append_nil _).symm, by simp⟩
  | some p =>
      simp only
      rw [CookieFlow.runOn_bind_ok (runOn_endSession p.claims), CookieFlow.runOn_issuing]
      have cleared := Token.clearCookies_lines s.config out
      rcases hc : (Token.clearCookies s.config).run out with ⟨r, out₁⟩
      rw [hc] at cleared
      cases r <;> exact cleared

/-- Only the ledger changes when the session that a request arrives with ends. -/
theorem storeAfterCurrent_eq (m : Memory) (current : Option Principal) :
    s.storeAfterCurrent m current =
      { m with rejections := (s.storeAfterCurrent m current).rejections } := by
  unfold storeAfterCurrent
  split
  · exact Memory.withEnded_eq _ _ _
  · rfl

/-- The ledger changes only for the session that the request arrives with. -/
theorem exists_of_storeAfterCurrent_ne {current : Option Principal} {name : String}
    (changed : (s.storeAfterCurrent m current).rejections.find? name ≠
      m.rejections.find? name) :
    ∃ claims, current = some ⟨claims, .session⟩ ∧
      (name = claims.id ∨ claims.parent? = some name) := by
  unfold storeAfterCurrent at changed
  cases arrived : current.filter (·.source == .session) with
  | none =>
      rw [arrived] at changed
      exact absurd rfl changed
  | some p =>
      rw [arrived] at changed
      obtain ⟨rfl, session⟩ := Option.filter_eq_some_iff.1 arrived
      obtain ⟨claims, source⟩ := p
      obtain rfl : source = .session := by simpa using session
      exact ⟨claims, rfl, Memory.named_of_withEnded_ne changed⟩

/-- The password step looks at nothing in the ledger. -/
theorem passwordChecked_of_storeAfterCurrent {current : Option Principal} {name password : String}
    {user : User}
    (h : PasswordChecked s (s.storeAfterCurrent m current) name password user) :
    PasswordChecked s m name password user := by
  rw [storeAfterCurrent_eq] at h
  obtain ⟨stored, active, fits, named⟩ := h
  refine ⟨stored, active, fits, ?_⟩
  cases named with
  | username same => exact .username same
  | address permitted unused email own verified same =>
      exact .address permitted unused email own verified same

/-- The second step looks at nothing in the ledger. -/
theorem secondFactorChecked_of_storeAfterCurrent {current : Option Principal}
    {token code : String} {user : User}
    (h : SecondFactorChecked s (s.storeAfterCurrent m current) m' now token code user) :
    SecondFactorChecked s m m' now token code user := by
  rw [storeAfterCurrent_eq] at h
  exact ⟨h.stored, h.active, h.pending, h.factor⟩

theorem withEmail_storeAfterCurrent (current : Option Principal) (user : User) :
    (s.storeAfterCurrent m current).withEmail user = m.withEmail user := by
  rw [storeAfterCurrent_eq]
  rfl

/-- How a step of a login that ends well came to its outcome.  The records are those of the store
before the request; `m'` is the store after it. -/
inductive LoginEnds (s : Service) (o : Occasion) (request : LoginRequest) (m m' : Memory) :
    LoginOutcome → Prop where
  /-- The password fits and a second factor is enrolled. -/
  | pending {name password : String} {record : User} {token : IssuedToken}
      (credential : request.credential = .password name password)
      (checked : PasswordChecked s m name password record)
      (enrolled : record.hasSecondFactor = true)
      (signed : Token.sign s.config.algorithm s.config.key
        (Token.pendingClaims s.config o.now o.pendingId (m.withEmail record)) = .ok token.token) :
      LoginEnds s o request m m' (.secondFactorRequired token)
  /-- The password fits and no second factor is enrolled. -/
  | password {name password : String} {record : User} {session : Session} {roles : List Role}
      {parent : Option String} (credential : request.credential = .password name password)
      (checked : PasswordChecked s m name password record)
      (single : record.hasSecondFactor = false) (owner : session.userId = record.id)
      (begun : Begun s o request (m.withEmail record) roles .password session.refreshToken parent)
      (signed : Token.sign s.config.algorithm s.config.key (Token.accessClaims s.config o.now
        o.accessId (m.withEmail record) roles request.requestedTtl parent .password) =
          .ok session.accessToken.token) :
      LoginEnds s o request m m' (.established session)
  /-- The code is right. -/
  | secondFactor {token code : String} {record : User} {session : Session} {roles : List Role}
      {parent : Option String} (credential : request.credential = .secondFactor token code)
      (checked : SecondFactorChecked s m m' o.now token code record)
      (owner : session.userId = record.id)
      (begun : Begun s o request (m.withEmail record) roles .mfa session.refreshToken parent)
      (signed : Token.sign s.config.algorithm s.config.key (Token.accessClaims s.config o.now
        o.accessId (m.withEmail record) roles request.requestedTtl parent .mfa) =
          .ok session.accessToken.token) :
      LoginEnds s o request m m' (.established session)

/-- How a step of a login that ends well came to its outcome. -/
theorem login_ok {request : LoginRequest} {current : Option Principal} {outcome : LoginOutcome}
    (h : (s.login o request current).runOn out m = (.ok outcome, out', m')) :
    LoginEnds s o request m m' outcome := by
  unfold login at h
  obtain ⟨⟨⟩, out₁, m₁, hended, h₁⟩ := CookieFlow.exists_of_bind h
  obtain rfl : m₁ = s.storeAfterCurrent m current := by
    rw [← endCurrent_memory s current out m, hended]
  cases hcred : request.credential with
  | password name password =>
      simp only [hcred] at h₁
      obtain ⟨user, m₂, huser, h₂⟩ := CookieFlow.exists_of_withCookies_bind h₁
      obtain ⟨rfl, record, rfl, checked⟩ := passwordUser_ok huser
      rw [withEmail_storeAfterCurrent] at h₂
      have checked := passwordChecked_of_storeAfterCurrent checked
      cases enrolled : (m.withEmail record).hasSecondFactor with
      | true =>
          simp only [enrolled, if_true] at h₂
          obtain ⟨token, out₂, hissue, h₃⟩ := CookieFlow.exists_of_issuing_bind h₂
          cases h₃
          exact .pending hcred checked enrolled (Token.issue_ok hissue).1
      | false =>
          simp only [enrolled, Bool.false_eq_true, if_false] at h₂
          obtain ⟨session, out₂, m₃, hestablish, h₃⟩ := CookieFlow.exists_of_bind h₂
          obtain ⟨rfl, owner, roles, parent, begun, signed⟩ := establish_ok hestablish
          cases h₃
          exact .password hcred checked enrolled owner begun signed
  | secondFactor token code =>
      simp only [hcred] at h₁
      obtain ⟨user, m₂, huser, h₂⟩ := CookieFlow.exists_of_withCookies_bind h₁
      obtain ⟨record, rfl, checked⟩ := secondFactorUser_ok huser
      rw [withEmail_storeAfterCurrent] at h₂
      obtain ⟨session, out₂, m₃, hestablish, h₃⟩ := CookieFlow.exists_of_bind h₂
      obtain ⟨rfl, owner, roles, parent, begun, signed⟩ := establish_ok hestablish
      cases h₃
      exact .secondFactor hcred (secondFactorChecked_of_storeAfterCurrent checked) owner begun signed

/-! ## Users who have enrolled a second factor -/

theorem loginUser?_storeAfterCurrent (current : Option Principal) (byEmail : Bool)
    (name : String) :
    (s.storeAfterCurrent m current).loginUser? byEmail name = m.loginUser? byEmail name := by
  rw [storeAfterCurrent_eq]
  rfl

/-- The password step of a user who has enrolled a second factor signs nothing but a token for the
second step, and sets no cookies. -/
theorem login_enrolled {request : LoginRequest} {current : Option Principal}
    {name password : String} {user : User}
    (credential : request.credential = .password name password)
    (found : m.loginUser? s.config.loginByEmail (Text.trim name) = some user)
    (enrolled : user.hasSecondFactor = true) :
    (∀ outcome, ((s.login o request current).runOn out m).1 = .ok outcome →
      ∃ token, outcome = .secondFactorRequired token ∧
        Token.sign s.config.algorithm s.config.key
          (Token.pendingClaims s.config o.now o.pendingId user) = .ok token.token) ∧
    ∃ added, ((s.login o request current).runOn out m).2.1.lines = out.lines ++ added ∧
      ∀ line ∈ added, Token.DropsCookie s.config line := by
  have dropped := endCurrent_lines s current out m
  have ended := endCurrent_memory s current out m
  unfold login
  rw [CookieFlow.runOn_bind]
  rcases hr : (s.endCurrent current).runOn out m with ⟨r, out₁, m₁⟩
  rw [hr] at dropped ended
  obtain rfl : m₁ = s.storeAfterCurrent m current := ended
  cases r with
  | error e => exact ⟨fun outcome h => (by cases h), dropped⟩
  | ok a =>
      have looked := runOn_loginUser? (s := s) (m := s.storeAfterCurrent m current) name
      rw [loginUser?_storeAfterCurrent, found] at looked
      simp only [credential]
      rw [CookieFlow.runOn_bind, CookieFlow.runOn_withCookies, passwordUser,
        Flow.runOn_bind_ok looked]
      cases fits : Credential.passwordMatches user.passwordHash password with
      | false =>
          simp only [fits, Bool.false_eq_true, if_false, Flow.runOn_throw]
          exact ⟨fun outcome h => (by cases h), dropped⟩
      | true =>
          simp only [fits, if_true, Flow.runOn_pure, enrolled]
          rw [CookieFlow.runOn_bind, CookieFlow.runOn_issuing]
          unfold Token.issuePending Token.issue
          cases signed : Token.sign s.config.algorithm s.config.key
            (Token.pendingClaims s.config o.now o.pendingId user) with
          | error e => exact ⟨fun outcome h => (by cases h), dropped⟩
          | ok token =>
              refine ⟨fun outcome h => ?_, dropped⟩
              cases h
              exact ⟨_, rfl, rfl⟩

/-! ## The store -/

/-- The password step changes nothing in the store. -/
theorem passwordUser_keeps {γ : Type} (part : Memory → γ) (name password : String) :
    (s.passwordUser name password).Keeps part := by
  refine Flow.Keeps.bind (fun m => by rw [runOn_loginUser?]) fun found => ?_
  cases found with
  | none => exact Flow.keeps_throw _
  | some user =>
      simp only
      split
      · exact Flow.keeps_pure _
      · exact Flow.keeps_throw _

/-- Taking a recovery code changes nothing in the store where the user does not have the code. -/
theorem takeRecoveryCode_memory (m : Memory) (userId code : String) :
    ((takeRecoveryCode userId code).runOn m).2 = m ∨
      ∃ digest, Credential.RecoveryCode.digest? code = some digest ∧
        digest ∈ m.recoveryDigests userId ∧
        ((takeRecoveryCode userId code).runOn m).2 = (m.takeRecoveryCode userId digest).2 := by
  unfold takeRecoveryCode
  cases read : Credential.RecoveryCode.digest? code with
  | none => exact .inl rfl
  | some digest =>
      have asked : (Flow.fetch (Asking.takeRecoveryCode userId digest)).runOn m =
          (.ok (m.takeRecoveryCode userId digest).1, (m.takeRecoveryCode userId digest).2) :=
        Flow.runOn_fetch rfl
      simp only [asked]
      by_cases left : digest ∈ m.recoveryDigests userId
      · exact .inr ⟨digest, rfl, left, rfl⟩
      · left
        rw [Memory.takeRecoveryCode_of_notMem left]

/-- A second step changes nothing in the store but that a recovery code is taken from the user whom
the token names. -/
theorem secondFactorUser_memory (s : Service) (now : Time) (m : Memory)
    (pendingToken code : String) :
    ((s.secondFactorUser now pendingToken code).runOn m).2 = m ∨
      ∃ claims digest, Token.verify s.config.key now pendingToken = .ok claims ∧
        claims.hasScope .pending = true ∧ Credential.RecoveryCode.digest? code = some digest ∧
        digest ∈ m.recoveryDigests claims.subject ∧
        ((s.secondFactorUser now pendingToken code).runOn m).2 =
          (m.takeRecoveryCode claims.subject digest).2 := by
  unfold secondFactorUser
  cases Token.verify s.config.key now pendingToken with
  | error e => exact .inl rfl
  | ok claims =>
      simp only
      cases scope : claims.hasScope .pending with
      | false => exact .inl rfl
      | true =>
          simp only [Bool.not_true, Bool.false_eq_true, if_false]
          rw [Flow.runOn_bind, Flow.runOn_activeUser]
          cases active : m.activeUser? claims.subject with
          | none => exact .inl rfl
          | some user =>
              obtain ⟨record, rfl, named, -, -⟩ := Memory.exists_of_activeUser? active
              have same : (m.withEmail record).id = claims.subject := named
              simp only [same]
              split
              · exact .inl rfl
              · split
                · exact .inl rfl
                · -- The outcome is told from the answer, without another look at the store.
                  have told : ∀ taken : Bool, Flow.Keeps (id : Memory → Memory) (do
                      if taken then return m.withEmail record
                      throw .unauthenticated) := by
                    intro taken
                    split
                    · exact Flow.keeps_pure _
                    · exact Flow.keeps_throw _
                  have after := Flow.part_bind (x := takeRecoveryCode claims.subject code) told m
                  simp only [id_eq] at after
                  rw [after]
                  rcases takeRecoveryCode_memory m claims.subject code with
                    kept | ⟨digest, read, left, taken⟩
                  · exact .inl kept
                  · exact .inr ⟨claims, digest, rfl, scope, read, left, taken⟩

/-- A session begins without any change in the store. -/
theorem establish_keeps {γ : Type} (part : Memory → γ) (request : LoginRequest) (user : User)
    (kind : LoginKind) : (s.establish o request user kind).Keeps part := by
  unfold establish
  refine CookieFlow.Keeps.bind (x := Flow.withCookies (Flow.fetch (Asking.rolesOfUser user.id)))
    (CookieFlow.keeps_withCookies (Flow.keeps_fetch fun _ => rfl)) fun roles => ?_
  have access (refreshToken : Option IssuedToken) : CookieFlow.Keeps part (issuing
      (Token.issueAccess s.config o.now o.accessId user roles request.requestedTtl
        (refreshToken.map (·.id)) kind true)) := CookieFlow.keeps_issuing _
  have continued (refreshToken : Option IssuedToken) :=
    (access refreshToken).bind fun accessToken =>
        CookieFlow.keeps_pure (Session.mk user.id kind accessToken refreshToken
          (s.redirectTarget request.redirect))
  simp only
  split
  · exact CookieFlow.Keeps.bind (CookieFlow.keeps_issuing _) fun issued => continued (some issued)
  · exact continued none

/-- The second step that is requested takes a recovery code: it presents a token of the password
step that is accepted and names the user, and the code is one that the user has left. -/
structure SpendsCode (s : Service) (now : Time) (m : Memory) (request : LoginRequest)
    (userId digest : String) : Prop where
  presented : ∃ pendingToken code claims,
    request.credential = .secondFactor pendingToken code ∧
    Token.verify s.config.key now pendingToken = .ok claims ∧ claims.hasScope .pending = true ∧
    claims.subject = userId ∧ Credential.RecoveryCode.digest? code = some digest
  left : digest ∈ m.recoveryDigests userId

/-- A login ends the session that the request arrives with, and beside that it takes a recovery code
or changes nothing in the store. -/
theorem login_memory (s : Service) (out : Headers) (m : Memory) (request : LoginRequest)
    (current : Option Principal) :
    ((s.login o request current).runOn out m).2.2 = s.storeAfterCurrent m current ∨
      ∃ userId digest, s.SpendsCode o.now m request userId digest ∧
        ((s.login o request current).runOn out m).2.2 =
          ((s.storeAfterCurrent m current).takeRecoveryCode userId digest).2 := by
  have ended := endCurrent_memory s current out m
  unfold login
  rw [CookieFlow.runOn_bind]
  rcases hr : (s.endCurrent current).runOn out m with ⟨r, out₁, m₁⟩
  rw [hr] at ended
  obtain rfl : m₁ = s.storeAfterCurrent m current := ended
  cases r with
  | error e => exact .inl rfl
  | ok a =>
      cases credential : request.credential with
      | password name password =>
          left
          refine (?_ : CookieFlow.Keeps (id : Memory → Memory) _) out₁ _
          refine CookieFlow.Keeps.bind (CookieFlow.keeps_withCookies
            (passwordUser_keeps _ name password)) fun user => ?_
          split
          · exact CookieFlow.Keeps.bind (CookieFlow.keeps_issuing _) fun _ =>
              CookieFlow.keeps_pure _
          · exact CookieFlow.Keeps.bind (establish_keeps _ request user _) fun _ =>
              CookieFlow.keeps_pure _
      | secondFactor pendingToken code =>
          have begun (user : User) := CookieFlow.Keeps.bind
            (establish_keeps (s := s) (o := o) (id : Memory → Memory) request user .mfa)
            fun session => CookieFlow.keeps_pure (LoginOutcome.established session)
          have after := CookieFlow.part_bind
            (x := Flow.withCookies (s.secondFactorUser o.now pendingToken code)) begun out₁
            (s.storeAfterCurrent m current)
          simp only [id_eq, CookieFlow.runOn_withCookies] at after
          simp only [after]
          rcases s.secondFactorUser_memory o.now (s.storeAfterCurrent m current) pendingToken
            code with kept | ⟨claims, digest, verified, scope, read, left, taken⟩
          · exact .inl kept
          · rw [storeAfterCurrent_eq] at left
            exact .inr ⟨claims.subject, digest,
              ⟨⟨pendingToken, code, claims, credential, verified, scope, rfl, read⟩, left⟩, taken⟩

/-- A login changes the ledger only for the session that the request arrives with. -/
theorem login_rejections (request : LoginRequest) (current : Option Principal) :
    ((s.login o request current).runOn out m).2.2.rejections =
      (s.storeAfterCurrent m current).rejections := by
  rcases s.login_memory out m request current with
    kept | ⟨userId, digest, -, taken⟩
  · rw [kept]
  · rw [taken, Memory.takeRecoveryCode_snd]

end Service

end Access

end Gatehouse
