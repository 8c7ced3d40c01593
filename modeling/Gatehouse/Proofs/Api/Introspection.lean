import Gatehouse.Proofs.Api.Attenuation

/-!
# The application - Who a credential says its bearer is

Users are told who they are when they ask for their profile, and the sites behind the service are told
with each delegated request.  Both tell the same of the user.  The roles in the profile are those of
the user, also for whoever presents an API token; sites are told those of the token.

Main definition: `Engine.Agree`, a profile and what a site is told are of the same user.

Main result: theorem `introspection_agrees`, with the credentials for which the roles agree too.
-/

/-! ## The same user -/

namespace Gatehouse.Forward.Engine

open Access (Principal Profile)
open Http (Headers line?)
open Policy (Subject)
open Store (Memory User)

/-- A profile and what is told with a delegated request are of the same user: the policy is told what
the profile says, and so is the site, line by line, with one more line for each role that the policy
is told. -/
structure Agree (e : Engine) (profile : Profile) (lines : Headers) (subject : Subject) : Prop where
  id : subject.id = profile.id
  username : subject.username = profile.username
  displayName : subject.displayName = profile.displayName
  email : subject.email = profile.email
  loginKind : subject.loginKind = profile.loginKind
  lines : lines.lines = (e.userEntries profile ++ roleEntries subject.roles).filterMap
    fun entry => line? entry.1 entry.2

variable {e : Engine} {m : Memory} {p : Principal} {user : User}

/-- What is told of an active user is what the profile says. -/
theorem agree_portrait (active : m.activeUser? p.userId = some user) :
    ∃ lines subject, (e.describe (.user p user)).runOn m = (.ok (lines, some subject), m) ∧
      e.Agree (p.profileIn m user) lines subject ∧ subject.roles = p.rolesIn m := by
  have told := runOn_describe (e := e) (m := m) (.user p user)
  have lines : (e.portrait m (.user p user)).1.lines = _ := portrait_lines
  rw [portrait_user] at told lines
  obtain ⟨record, rfl, -, -, -⟩ := Memory.exists_of_activeUser? active
  refine ⟨_, _, told, ?_, rfl⟩
  exact {
    id := rfl
    username := rfl
    displayName := rfl
    email := rfl
    loginKind := rfl
    lines }

end Gatehouse.Forward.Engine

/-! ## Introspection -/

namespace Gatehouse.Api

open Access (Principal Service)
open Forward (Engine)
open Store (Memory User)

variable {p : Principal} {user : User}

/-- Whoever presents a credential of an active user is told the same by the profile as sites are told
with delegated requests, but for the roles: the profile has those that are assigned to the user, and
sites are told those that apply to the principal.  The ids of the two are the same for every session,
and for an API token exactly when the ids that it was given are those of the user, as far as the store
knows them. -/
theorem introspection_agrees (e : Engine) (now : Token.Time) (m : Memory) (r : Forward.Request)
    (authentic : e.authentication now m r = .ok p) (active : m.activeUser? p.userId = some user) :
    ∃ profile lines subject,
      (e.service.authenticateHeaders now r.headers >>= Principal.profile).runOn m =
        (.ok profile, m) ∧
      (e.identify now r).run Memory.answer m = (.ok (.user p user), m) ∧
      (e.describe (.user p user)).runOn m = (.ok (lines, some subject), m) ∧
      e.Agree profile lines subject ∧
      profile.roles = m.rolesOf (m.assignments.find? p.userId) ∧
      p.roles.runOn m = (.ok subject.roles, m) ∧
      (profile.roles.map (·.id) = subject.roles.map (·.id) ↔
        ∀ tokenId roles, p.source = .apiToken tokenId roles →
          m.knownIds (m.assignments.find? p.userId) =
            m.knownIds (m.apiTokenRoles.find? tokenId)) := by
  obtain ⟨lines, subject, told, agree, roles⟩ := Engine.agree_portrait (e := e) active
  obtain ⟨record, same, owner, -, -⟩ := Memory.exists_of_activeUser? active
  have own : user.id = p.userId := by
    rw [same]
    exact owner
  have accepted : (e.service.authenticateHeaders now r.headers).runOn m = (.ok p, m) := by
    rw [Engine.runOn_authentication, authentic]
  refine ⟨p.profileIn m user, lines, subject, ?_, ?_, told, agree, ?_, ?_, ?_⟩
  · rw [Access.Flow.runOn_bind_ok accepted, Principal.runOn_profile, active]
  · rw [Engine.run_identify, authentic]
    simp only [Engine.identified, active]
  · rw [← own]
    rfl
  · rw [roles]
    exact Principal.runOn_roles
  · have assigned : (p.profileIn m user).roles = m.rolesOf (m.assignments.find? p.userId) := by
      rw [← own]
      rfl
    rw [assigned, roles, Principal.rolesIn]
    cases source : p.source with
    | session => simp
    | apiToken tokenId given =>
        rw [Service.roles_of_apiToken authentic source, Memory.ids_rolesOf, Memory.ids_rolesOf]
        constructor
        · rintro same _ _ ⟨⟩
          exact same
        · intro same
          exact same tokenId _ rfl

/-- A delegated request of Alice's guest. -/
def guestRequest : Forward.Request :=
  ⟨"GET", "http", "house", "/page", "", none,
    ⟨[("authorization",
      utf8 ("Bearer " ++ Token.ApiToken.ofRandom Access.aliceErrand.apiTokenRandom))]⟩⟩

/-- The guest is told of both of Alice's roles, and sites are told of one. -/
theorem aliceGuest_introspection :
    houseApp.engine.authentication 2000 ((Memory.ofSeed aliceSeed).during [aliceInvites])
        guestRequest = .ok aliceGuest ∧
      ((Memory.ofSeed aliceSeed).during [aliceInvites]).activeUser? aliceGuest.userId =
        some (Access.alice none) ∧
      ∃ profile lines subject,
        (houseApp.engine.service.authenticateHeaders 2000 guestRequest.headers >>=
          Principal.profile).runOn ((Memory.ofSeed aliceSeed).during [aliceInvites]) =
            (.ok profile, (Memory.ofSeed aliceSeed).during [aliceInvites]) ∧
        (houseApp.engine.describe (.user aliceGuest (Access.alice none))).runOn
          ((Memory.ofSeed aliceSeed).during [aliceInvites]) =
            (.ok (lines, some subject), (Memory.ofSeed aliceSeed).during [aliceInvites]) ∧
        profile.roles.map (·.id) = ["admin", "guest"] ∧ subject.roles.map (·.id) = ["guest"] := by
  have presented : Access.PresentedToken.ofHeaders? guestRequest.headers
      houseApp.engine.service.config.accessCookie =
        some (.api (Token.ApiToken.ofRandom Access.aliceErrand.apiTokenRandom)) := by
    decide +kernel
  have authentic : houseApp.engine.authentication 2000
      ((Memory.ofSeed aliceSeed).during [aliceInvites]) guestRequest = .ok aliceGuest := by
    rw [Engine.authentication, Service.authenticateHeaders, presented]
    exact aliceGuest_accepted
  have active : ((Memory.ofSeed aliceSeed).during [aliceInvites]).activeUser? aliceGuest.userId =
      some (Access.alice none) := by
    rw [during_aliceInvites]
    rfl
  obtain ⟨profile, lines, subject, introspected, -, told, -, assigned, applied, -⟩ :=
    introspection_agrees houseApp.engine 2000 _ guestRequest authentic active
  refine ⟨authentic, active, profile, lines, subject, introspected, told, ?_, ?_⟩
  · rw [assigned, during_aliceInvites]
    rfl
  · have given := congrArg Prod.fst (Principal.runOn_roles.symm.trans applied)
    rw [← Except.ok.inj given]
    rfl

end Gatehouse.Api
