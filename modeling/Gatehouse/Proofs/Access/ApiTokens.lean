import Gatehouse.Access.ApiTokens
import Gatehouse.Proofs.Access.Session
import Gatehouse.Proofs.Except
import Gatehouse.Proofs.Store.ApiTokens

/-!
# API tokens of a user - Against the store in memory

What becomes of the store when a token is made, listed, deleted and presented, and who is accepted
with a token.

Main definition: `Principal.newRecord`, what is stored of a new token.

Main results:

- Theorem `mem_of_grantedRoles`: a token gets only roles that its user has.
- Theorem `Principal.runOn_generateApiToken` and theorem `Principal.runOn_removeApiToken`: the making
  and the deletion of a token.
- Theorem `Service.runOn_authenticateApi`: who is accepted with an API token.
- Theorem `Service.signed_of_session`: sessions come from signed tokens.
-/

namespace Gatehouse.Access

open Store (Asking Memory Role ApiTokenRecord User)
open Token (Time)

variable {s : Service} {m m' : Memory} {o : Occasion} {now : Time} {p : Principal}

/-! ## Roles of a new token -/

/-- Roles that are picked are available. -/
theorem mem_of_selectRoles {available granted : List Role} {wanted : List String}
    (h : selectRoles available wanted = .ok granted) : ∀ role ∈ granted, role ∈ available := by
  unfold selectRoles at h
  refine foldlM_induction (P := fun selected => ∀ role ∈ selected, role ∈ available) ?_ ?_ h
  · intro role hrole
    cases hrole
  · intro selected name selected' known picked
    cases found : available.find? fun role => role.id == name || role.name == name with
    | none =>
        rw [found] at picked
        cases picked
    | some role =>
        rw [found] at picked
        cases picked
        split
        · exact known
        · intro other hother
          rcases List.mem_append.1 hother with old | new
          · exact known other old
          · obtain rfl := List.mem_singleton.1 new
            exact List.mem_of_find?_eq_some found

/-- A token gets only roles that its user has. -/
theorem mem_of_grantedRoles {available granted : List Role} {wanted : Option (List String)}
    (h : grantedRoles available wanted = .ok granted) : ∀ role ∈ granted, role ∈ available := by
  unfold grantedRoles at h
  cases wanted with
  | none =>
      cases h
      exact fun role hrole => hrole
  | some wanted =>
      simp only at h
      cases picked : selectRoles available wanted with
      | error name =>
          rw [picked] at h
          cases h
      | ok roles =>
          rw [picked] at h
          cases h
          exact mem_of_selectRoles picked

/-- The roles of a token are known to the store. -/
theorem contains_of_grantedRoles {granted : List Role} {ids wanted : Option (List String)}
    (h : grantedRoles (m.rolesOf ids) wanted = .ok granted) :
    ∀ id ∈ granted.map (·.id), m.roles.contains id = true := by
  intro id hid
  obtain ⟨role, hrole, rfl⟩ := List.mem_map.1 hid
  exact (Memory.contains_of_mem_rolesOf (mem_of_grantedRoles h role hrole)).2

namespace Principal

/-! ## Making and deleting -/

/-- What is stored of a new token. -/
def newRecord (p : Principal) (o : Occasion) (expiresAt : Option Time) (description : String) :
    ApiTokenRecord where
  id := o.apiTokenId
  digest := Token.ApiToken.digest (Token.ApiToken.ofRandom o.apiTokenRandom)
  redacted := Token.ApiToken.redacted (Token.ApiToken.ofRandom o.apiTokenRandom)
  description := Text.trim description
  userId := p.userId
  createdAt := o.now
  expiresAt := expiresAt

/-- What is told of a new token. -/
def newToken (o : Occasion) (expiresAt : Option Time) (description : String)
    (granted : List Role) : GeneratedApiToken where
  id := o.apiTokenId
  token := Token.ApiToken.ofRandom o.apiTokenRandom
  description := Text.trim description
  expiresAt := expiresAt
  roles := granted

/-- A session makes a token with a date in the future and roles that its user has; nothing else
does. -/
theorem runOn_generateApiToken (wanted : Option (List String)) (expiresAt : Option Time)
    (description : String) :
    (p.generateApiToken o wanted expiresAt description).runOn m =
      if p.isApiToken then
        (.error (.permissionDenied "API tokens cannot create API tokens"), m)
      else if expiresAt.any (· ≤ o.now) then
        (.error (.invalidArgument "expiry must be in the future"), m)
      else
        match grantedRoles (m.rolesOf (m.assignments.find? p.userId)) wanted with
        | .error e => (.error e, m)
        | .ok granted =>
          (.ok (newToken o expiresAt description granted),
            m.withApiToken (p.newRecord o expiresAt description) (granted.map (·.id))) := by
  unfold generateApiToken
  cases p.isApiToken with
  | true => rfl
  | false =>
      simp only [Bool.false_eq_true, if_false]
      cases expiresAt.any (· ≤ o.now) with
      | true => rfl
      | false =>
          simp only [Bool.false_eq_true, if_false]
          rw [Flow.runOn_bind_ok (Flow.runOn_rolesOfUser p.userId), Flow.runOn_bind]
          cases chosen : grantedRoles (m.rolesOf (m.assignments.find? p.userId)) wanted with
          | error e => rfl
          | ok granted =>
              have stored : m.addApiToken (p.newRecord o expiresAt description)
                  (granted.map (·.id)) = (.ok (), _) :=
                Memory.addApiToken_of_known (contains_of_grantedRoles chosen)
              exact Flow.runOn_bind_ok (Flow.runOn_fetch stored)

/-- What is told and stored of a token that is made. -/
theorem generateApiToken_ok {wanted : Option (List String)} {expiresAt : Option Time}
    {description : String} {g : GeneratedApiToken}
    (h : ((p.generateApiToken o wanted expiresAt description).runOn m).1 = .ok g) :
    ∃ granted, g = newToken o expiresAt description granted ∧
      ((p.generateApiToken o wanted expiresAt description).runOn m).2 =
        m.withApiToken (p.newRecord o expiresAt description) (granted.map (·.id)) := by
  rw [runOn_generateApiToken] at h ⊢
  split at h
  · cases h
  · rename_i session
    split at h
    · cases h
    · rename_i future
      split at h
      · cases h
      · rename_i granted chosen
        refine ⟨granted, (Except.ok.inj h).symm, ?_⟩
        rw [if_neg session, if_neg future]

/-- The owner of a token deletes it; nobody else does. -/
theorem runOn_removeApiToken (tokenId : String) :
    (p.removeApiToken tokenId).runOn m =
      if m.ownsApiToken p.userId tokenId then (.ok (), m.withoutApiToken tokenId)
      else (.error (.notFound ("API token " ++ tokenId)), m) := by
  have asked : (Flow.fetch (Asking.removeApiToken tokenId p.userId)).runOn m =
      (.ok (m.removeApiToken tokenId p.userId).1, (m.removeApiToken tokenId p.userId).2) :=
    Flow.runOn_fetch rfl
  rw [removeApiToken, Flow.runOn_bind_ok asked, Memory.removeApiToken_eq]
  cases m.ownsApiToken p.userId tokenId <;> rfl

/-- Listing the tokens only reads. -/
theorem listApiTokens_reads (p : Principal) : p.listApiTokens.Reads := by
  unfold listApiTokens
  refine Flow.Reads.bind (Flow.reads_fetch fun _ => ⟨_, rfl⟩) fun tokens => ?_
  refine Flow.reads_mapM (fun token => ?_) tokens
  exact Flow.Reads.bind (Flow.reads_fetch fun _ => ⟨_, rfl⟩) fun roles => Flow.reads_pure _

end Principal

/-! ## Presenting -/

namespace Service

/-- Whoever presents an API token is accepted when the store has its digest, its date has not passed
and its user is active. -/
theorem runOn_authenticateApi (token : String) :
    (s.authenticateApi now token).runOn m =
      (match m.apiTokens.data.find? (·.digest == Token.ApiToken.digest token) with
        | none => .error .unauthenticated
        | some stored =>
          if stored.isExpired now then .error .unauthenticated
          else
            match m.activeUser? stored.userId with
            | none => .error .unauthenticated
            | some user =>
              let roles := m.rolesOf (m.apiTokenRoles.find? stored.id)
              .ok ⟨apiTokenClaims s.config stored user roles, .apiToken stored.id roles⟩, m) := by
  have looked : (Flow.lookup? (Asking.apiTokenByDigest (Token.ApiToken.digest token))).runOn m =
      (.ok (m.apiTokens.data.find? (·.digest == Token.ApiToken.digest token)), m) :=
    Flow.runOn_lookup? rfl
  rw [authenticateApi, Flow.runOn_bind_ok looked]
  cases m.apiTokens.data.find? (·.digest == Token.ApiToken.digest token) with
  | none => rfl
  | some stored =>
      simp only
      cases stored.isExpired now with
      | true => rfl
      | false =>
          simp only [Bool.false_eq_true, if_false]
          rw [Flow.runOn_bind, Flow.runOn_activeUser]
          cases m.activeUser? stored.userId with
          | none => rfl
          | some user =>
              have roles : (Flow.fetch (Asking.rolesOfApiToken stored.id)).runOn m =
                  (.ok (m.rolesOf (m.apiTokenRoles.find? stored.id)), m) := Flow.runOn_fetch rfl
              exact Flow.runOn_bind_ok roles

/-- Whoever is accepted with an API token stands for the user of its record. -/
theorem authenticateApi_ok {token : String}
    (h : ((s.authenticateApi now token).runOn m).1 = .ok p) :
    ∃ stored user,
      m.apiTokens.data.find? (·.digest == Token.ApiToken.digest token) = some stored ∧
      stored.isExpired now = false ∧ m.activeUser? stored.userId = some user ∧
      p = ⟨apiTokenClaims s.config stored user (m.rolesOf (m.apiTokenRoles.find? stored.id)),
        .apiToken stored.id (m.rolesOf (m.apiTokenRoles.find? stored.id))⟩ := by
  rw [runOn_authenticateApi] at h
  cases found : m.apiTokens.data.find? (·.digest == Token.ApiToken.digest token) with
  | none =>
      rw [found] at h
      cases h
  | some stored =>
      simp only [found] at h
      cases expired : stored.isExpired now with
      | true =>
          rw [expired] at h
          cases h
      | false =>
          simp only [expired, Bool.false_eq_true, if_false] at h
          cases active : m.activeUser? stored.userId with
          | none =>
              rw [active] at h
              cases h
          | some user =>
              rw [active] at h
              exact ⟨stored, user, rfl, expired, active, (Except.ok.inj h).symm⟩

/-- Whoever is accepted presents a credential that is accepted. -/
theorem exists_of_authenticateHeaders {headers : Http.Headers}
    (h : ((s.authenticateHeaders now headers).runOn m).1 = .ok p) :
    ∃ credential, PresentedToken.ofHeaders? headers s.config.accessCookie = some credential ∧
      ((s.authenticate now credential).runOn m).1 = .ok p := by
  unfold authenticateHeaders at h
  cases presented : PresentedToken.ofHeaders? headers s.config.accessCookie with
  | none =>
      rw [presented] at h
      cases h
  | some credential =>
      rw [presented] at h
      exact ⟨credential, rfl, h⟩

/-- Whoever is accepted with a session presents a signed token for access with the claims of the
session. -/
theorem signed_of_session {headers : Http.Headers} {claims : Token.Claims}
    (h : ((s.authenticateHeaders now headers).runOn m).1 = .ok ⟨claims, .session⟩) :
    ∃ token, PresentedToken.ofHeaders? headers s.config.accessCookie = some (.signed token) ∧
      Token.verify s.config.key now token = .ok claims ∧ claims.hasScope .access = true := by
  obtain ⟨credential, presented, accepted⟩ := exists_of_authenticateHeaders h
  cases credential with
  | signed token =>
      obtain ⟨claims', verified, scope, -, same⟩ := authenticateSigned_ok accepted
      obtain rfl : claims = claims' := congrArg Principal.claims same
      exact ⟨token, presented, verified, scope⟩
  | api token =>
      obtain ⟨stored, user, -, -, -, same⟩ := authenticateApi_ok accepted
      cases congrArg Principal.source same

/-- Whoever is accepted with an API token has the roles of the token that the store knows. -/
theorem roles_of_apiToken {headers : Http.Headers} {tokenId : String} {roles : List Role}
    (h : ((s.authenticateHeaders now headers).runOn m).1 = .ok p)
    (source : p.source = .apiToken tokenId roles) :
    roles = m.rolesOf (m.apiTokenRoles.find? tokenId) := by
  obtain ⟨credential, -, accepted⟩ := exists_of_authenticateHeaders h
  cases credential with
  | signed token =>
      obtain ⟨claims, -, -, -, rfl⟩ := authenticateSigned_ok accepted
      cases source
  | api token =>
      obtain ⟨stored, user, -, -, -, rfl⟩ := authenticateApi_ok accepted
      cases source
      rfl

end Service

end Gatehouse.Access
