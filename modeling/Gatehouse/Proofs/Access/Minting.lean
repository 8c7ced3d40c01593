import Gatehouse.Proofs.Access.Lifecycle
import Gatehouse.Proofs.Access.Login

/-!
# Credentials - For whom they are made

Logins and refreshes look the user up before they sign anything, so that all the tokens they hand out
are for users who are there and are not deleted.  An access token goes on being accepted after its
user has been deleted, and nothing is looked up when its holder asks for an API token.

Main definitions:

- `Memory.IsActive`: a user who is there and is not deleted.
- `Session.tokens` and `LoginOutcome.tokens`: the tokens that are handed out.
- `Service.SignedFor`: a text was signed for a user.
- `Service.MakesApiToken`: somebody can make an API token of a user.

Main results:

- Theorem `Service.login_isActive` and theorem `Service.refresh_isActive`: for whom tokens are handed
  out.
- Theorem `Principal.generateApiToken_isOk_iff`: when an API token is made.
- Theorem `Service.minted_for`: for whom credentials are made, and when one is made for a user who is
  not there or is deleted.
-/

namespace Gatehouse

open Store (Memory User)
open Token (Claims IssuedToken Time)

namespace Store.Memory

/-- There is a user of that id who is not deleted. -/
def IsActive (m : Memory) (userId : String) : Prop :=
  ∃ record, m.users.find? userId = some record ∧ record.deleted = false

theorem isActive_of_activeUser? {m : Memory} {userId : String} {user : User}
    (h : m.activeUser? userId = some user) : m.IsActive userId := by
  obtain ⟨record, -, -, stored, active⟩ := exists_of_activeUser? h
  exact ⟨record, stored, active⟩

end Store.Memory

namespace Access

variable {s : Service} {o : Occasion} {m : Memory} {out : Http.Headers}

/-! ## Tokens that are handed out -/

/-- The tokens of a session. -/
def Session.tokens (x : Session) : List IssuedToken :=
  x.accessToken :: x.refreshToken.toList

/-- The tokens that a step of a login hands out. -/
def LoginOutcome.tokens : LoginOutcome → List IssuedToken
  | .secondFactorRequired pendingToken => [pendingToken]
  | .established session => session.tokens

namespace Service

/-- The service signed the text for a user. -/
def SignedFor (s : Service) (userId text : String) : Prop :=
  ∃ claims : Claims, claims.subject = userId ∧
    Token.sign s.config.algorithm s.config.key claims = .ok text

/-- The tokens of a session that begins are signed for its user. -/
theorem signedFor_of_begun {request : LoginRequest} {user : User} {roles : List Store.Role}
    {kind : Token.LoginKind} {session : Session} {parent : Option String}
    (begun : Begun s o request user roles kind session.refreshToken parent)
    (signed : Token.sign s.config.algorithm s.config.key (Token.accessClaims s.config o.now
      o.accessId user roles request.requestedTtl parent kind) = .ok session.accessToken.token) :
    ∀ token ∈ session.tokens, s.SignedFor user.id token.token := by
  intro token htoken
  rcases List.mem_cons.1 htoken with rfl | htoken
  · exact ⟨_, rfl, signed⟩
  · cases hr : session.refreshToken with
    | none =>
        rw [hr] at htoken
        cases htoken
    | some issued =>
        rw [hr] at htoken begun
        obtain rfl := List.mem_singleton.1 htoken
        cases begun with
        | withRefresh _ _ refreshSigned => exact ⟨_, rfl, refreshSigned⟩

/-- A step of a login hands out tokens for a user who is active. -/
theorem login_isActive {request : LoginRequest} {current : Option Principal}
    {outcome : LoginOutcome}
    (h : ((s.login o request current).runOn out m).1 = .ok outcome) :
    ∃ userId, m.IsActive userId ∧ ∀ token ∈ outcome.tokens, s.SignedFor userId token.token := by
  cases login_ok (Prod.ext h rfl) with
  | @pending name password record token credential checked enrolled signed =>
      refine ⟨record.id, ⟨record, checked.stored, checked.active⟩, fun issued hissued => ?_⟩
      obtain rfl := List.mem_singleton.1 hissued
      exact ⟨_, rfl, signed⟩
  | @password name password record session roles parent credential checked single owner begun
      signed =>
      have tokens := signedFor_of_begun begun signed
      exact ⟨record.id, ⟨record, checked.stored, checked.active⟩, tokens⟩
  | @secondFactor token code record session roles parent credential checked owner begun signed =>
      have tokens := signedFor_of_begun begun signed
      exact ⟨record.id, ⟨record, checked.stored, checked.active⟩, tokens⟩

/-- A refresh hands out a token for a user who is active. -/
theorem refresh_isActive {headers : Http.Headers} {requestedTtl : Nat} {redirect : Option String}
    {session : Session}
    (h : ((s.refresh o headers requestedTtl redirect).runOn out m).1 = .ok session) :
    m.IsActive session.userId ∧
      ∀ token ∈ session.tokens, s.SignedFor session.userId token.token := by
  obtain ⟨text, claims, user, roles, traded⟩ := refresh_traded (Prod.ext h rfl)
  obtain ⟨record, rfl, named, -, -⟩ := Memory.exists_of_activeUser? traded.active
  have owner : session.userId = claims.subject := traded.owner.trans named
  constructor
  · rw [owner]
    exact Memory.isActive_of_activeUser? traded.active
  · intro token htoken
    rw [Session.tokens, traded.single] at htoken
    obtain rfl := List.mem_singleton.1 htoken
    exact ⟨_, traded.owner.symm, traded.signed⟩

end Service

/-! ## API tokens -/

/-- When an API token is made.  Nothing is asked about the user but the roles. -/
theorem Principal.generateApiToken_isOk_iff {p : Principal} {wanted : Option (List String)}
    {expiresAt : Option Time} {description : String} :
    (∃ g, ((p.generateApiToken o wanted expiresAt description).runOn m).1 = .ok g) ↔
      p.isApiToken = false ∧ expiresAt.any (· ≤ o.now) = false ∧
      ∃ granted, grantedRoles (m.rolesOf (m.assignments.find? p.userId)) wanted = .ok granted := by
  rw [runOn_generateApiToken]
  cases p.isApiToken with
  | true => simp
  | false =>
      cases expiresAt.any (· ≤ o.now) with
      | true => simp
      | false =>
          simp only [Bool.false_eq_true, if_false, true_and]
          cases grantedRoles (m.rolesOf (m.assignments.find? p.userId)) wanted with
          | error e => simp
          | ok granted => simp

namespace Service

/-- Whoever is accepted with an API token stands for a user who is active. -/
theorem isActive_of_apiToken {now : Time} {credential : PresentedToken} {p : Principal}
    (accepted : ((s.authenticate now credential).runOn m).1 = .ok p)
    (delegate : p.isApiToken = true) : m.IsActive p.userId := by
  cases credential with
  | signed token =>
      obtain ⟨claims, -, -, -, rfl⟩ := authenticateSigned_ok accepted
      cases delegate
  | api token =>
      obtain ⟨stored, user, -, -, active, rfl⟩ := authenticateApi_ok accepted
      obtain ⟨record, rfl, named, -, -⟩ := Memory.exists_of_activeUser? active
      have owner : (m.withEmail record).id = stored.userId := named
      rw [← owner] at active
      exact Memory.isActive_of_activeUser? active

/-- Somebody who is accepted can make an API token of a user. -/
def MakesApiToken (s : Service) (o : Occasion) (m : Memory) (userId : String) : Prop :=
  ∃ credential p, ((s.authenticate o.now credential).runOn m).1 = .ok p ∧ p.userId = userId ∧
    ∃ wanted expiresAt description g,
      ((p.generateApiToken o wanted expiresAt description).runOn m).1 = .ok g

/-- For a user who is not there or is deleted, an API token can be made as long as an access token
of the user is accepted. -/
theorem makesApiToken_iff_of_inactive {userId : String} (inactive : ¬m.IsActive userId) :
    s.MakesApiToken o m userId ↔
      ∃ text claims, Token.verify s.config.key o.now text = .ok claims ∧
        claims.hasScope .access = true ∧ m.rejects claims = false ∧ claims.subject = userId := by
  constructor
  · rintro ⟨credential, p, accepted, rfl, -⟩
    cases credential with
    | signed text =>
        obtain ⟨claims, verified, scope, kept, rfl⟩ := authenticateSigned_ok accepted
        exact ⟨text, claims, verified, scope, kept, rfl⟩
    | api token =>
        obtain ⟨stored, user, -, -, -, same⟩ := authenticateApi_ok accepted
        exact absurd (isActive_of_apiToken accepted (by rw [same]; rfl)) inactive
  · rintro ⟨text, claims, verified, scope, kept, rfl⟩
    have accepted : ((s.authenticate o.now (.signed text)).runOn m).1 =
        .ok ⟨claims, .session⟩ := by
      rw [authenticate, runOn_authenticateSigned, verified]
      simp [scope, kept]
    exact ⟨.signed text, ⟨claims, .session⟩, accepted, rfl, none, none, "",
      Principal.generateApiToken_isOk_iff.2 ⟨rfl, rfl, _, rfl⟩⟩

/-! ## All credentials -/

/-- The tokens of logins and refreshes are for users who are there and are not deleted.  An API token
is made without a look at its user, so that one is made for a user who is not there or is deleted
just as long as an access token of the user is accepted.  Nobody is accepted with it until the user
is there again. -/
theorem minted_for (s : Service) (o : Occasion) (m : Memory) :
    (∀ out request current outcome,
      ((s.login o request current).runOn out m).1 = .ok outcome →
      ∃ userId, m.IsActive userId ∧ ∀ token ∈ outcome.tokens, s.SignedFor userId token.token) ∧
    (∀ out headers requestedTtl redirect session,
      ((s.refresh o headers requestedTtl redirect).runOn out m).1 = .ok session →
      m.IsActive session.userId ∧
        ∀ token ∈ session.tokens, s.SignedFor session.userId token.token) ∧
    (∀ credential p, ((s.authenticate o.now credential).runOn m).1 = .ok p →
      (p.isApiToken = true → m.IsActive p.userId) ∧
      ∀ wanted expiresAt description,
        (∃ g, ((p.generateApiToken o wanted expiresAt description).runOn m).1 = .ok g) ↔
          p.isApiToken = false ∧ expiresAt.any (· ≤ o.now) = false ∧
          ∃ granted,
            grantedRoles (m.rolesOf (m.assignments.find? p.userId)) wanted = .ok granted) ∧
    ∀ userId, ¬m.IsActive userId →
      (s.MakesApiToken o m userId ↔
        ∃ text claims, Token.verify s.config.key o.now text = .ok claims ∧
          claims.hasScope .access = true ∧ m.rejects claims = false ∧ claims.subject = userId) := by
  refine ⟨fun _ _ _ _ => login_isActive, fun _ _ _ _ _ => refresh_isActive,
    fun credential p accepted => ⟨isActive_of_apiToken accepted, fun _ _ _ => ?_⟩,
    fun userId => makesApiToken_iff_of_inactive⟩
  exact Principal.generateApiToken_isOk_iff

/-- A store in which Alice is deleted. -/
def deletedStore : Memory :=
  Memory.empty.putUser { alice none with deleted := true }

/-- Alice is deleted while she has an access token, and makes an API token with it. -/
theorem aliceSession_deleted :
    ¬deletedStore.IsActive "1" ∧
    ∃ text, ((smallService.authenticate 1000 (.signed text)).runOn deletedStore).1 =
        .ok aliceSession ∧
      ∃ g, ((aliceSession.generateApiToken aliceErrand none none "").runOn deletedStore).1 =
        .ok g := by
  have deleted : ¬deletedStore.IsActive "1" := by
    rintro ⟨record, found, active⟩
    obtain rfl : { alice none with deleted := true } = record := Option.some.inj found
    cases active
  obtain ⟨text, signed⟩ := Token.exists_sign (a := smallService.config.algorithm)
    smallService_canIssue.secret aliceSession.claims
  have verified : Token.verify smallService.config.key 1000 text = .ok aliceSession.claims :=
    Token.verify_newClaims (by decide) (by decide) signed (by decide) (by decide)
  have accepted : ((smallService.authenticate 1000 (.signed text)).runOn deletedStore).1 =
      .ok aliceSession := by
    rw [authenticate, runOn_authenticateSigned, verified]
    rfl
  obtain ⟨-, -, made, -⟩ := minted_for smallService aliceErrand deletedStore
  exact ⟨deleted, text, accepted,
    ((made (.signed text) aliceSession accepted).2 none none "").2 ⟨rfl, rfl, [], rfl⟩⟩

end Service

end Access

end Gatehouse
