import Gatehouse.Proofs.Access.RoleChoice
import Gatehouse.Proofs.Forward.Subjects
import Gatehouse.Proofs.Store.Assignments

/-!
# Deciding about delegated requests - A line for each role

The proxy is told of the roles of whoever makes a request, one line for each.  A role that was assigned
to the user twice is told of twice, and a token that is made for all roles of the user has it twice as
well.  Only roles that are wanted by their names come once each.

Main definitions:

- `Principal.keptIds`: the ids that the store keeps for the roles of a principal.
- `Role.Standing`: the id of a role may stand in a header.

Main results:

- Theorem `once_of_selectRoles`: wanted roles are selected once each.
- Theorem `Engine.values_roleLines`: the lines with the roles of a user.
- Theorem `Engine.decide_user`: under which lines a user is let through.
- Theorem `Engine.roles_told_once_iff`: when roles are told once each.
-/

namespace Gatehouse.Access

open Store (Memory Once Role)
open Token (Time)

variable {m m' : Memory} {p : Principal} {o : Occasion} {selected granted available : List Role}
  {role : Role} {g : GeneratedApiToken} {expiresAt : Option Time} {description : String}

/-! ## Tokens that are made -/

/-- One more role is selected once, like those before it. -/
theorem once_withRole (once : Once selected) : Once (withRole selected role) := by
  unfold withRole
  split
  · exact once
  · rename_i new
    have other : ∀ id ∈ selected.map (·.id), id ≠ role.id := by simpa using new
    rw [Once, List.map_append, List.map_singleton]
    exact once.append (List.nodup_singleton _) (by simpa [List.disjoint_singleton] using other)

/-- Wanted roles are selected once each. -/
theorem once_of_selectRoles {wanted : List String}
    (h : selectRoles available wanted = .ok granted) : Once granted := by
  rw [selectRoles_eq] at h
  have none : Once [] := List.nodup_nil
  refine foldlM_induction none ?_ h
  intro selected name selected' once step
  unfold selecting at step
  split at step
  · cases step
  · cases step
    exact once_withRole once

/-- The store gives back the roles that are told of a new token.  These are all those of its user,
unless some are wanted; then each comes once. -/
theorem roles_of_generateApiToken {wanted : Option (List String)}
    (made : (p.generateApiToken o wanted expiresAt description).runOn m = (.ok g, m')) :
    m'.rolesOf (m'.apiTokenRoles.find? g.id) = g.roles ∧
      (wanted = none → g.roles = m.rolesOf (m.assignments.find? p.userId)) ∧
      (wanted ≠ none → Once g.roles) := by
  rw [Principal.runOn_generateApiToken] at made
  split at made
  · cases made
  split at made
  · cases made
  split at made
  · cases made
  rename_i granted chosen
  cases made
  refine ⟨?_, ?_, ?_⟩
  · have stored : (m.withApiToken (p.newRecord o expiresAt description)
        (granted.map (·.id))).apiTokenRoles.find? o.apiTokenId = some (granted.map (·.id)) := by
      rw [Memory.find?_withApiToken_roles]
      exact if_pos rfl
    have known : ∀ role ∈ granted, m.roles.find? role.id = some role := fun role mem =>
      Memory.find?_of_mem_rolesOf (mem_of_grantedRoles chosen role mem)
    exact (congrArg _ stored).trans (Memory.rolesOf_ids known)
  · rintro rfl
    exact (Except.ok.inj chosen).symm
  · intro some
    obtain ⟨names, rfl⟩ := Option.ne_none_iff_exists'.1 some
    simp only [grantedRoles] at chosen
    split at chosen
    · rename_i picked
      cases chosen
      exact once_of_selectRoles picked
    · cases chosen

/-! ## Roles of a principal -/

/-- The ids that the store keeps for the roles of a principal: those of the API token, else those of
the user. -/
def Principal.keptIds (p : Principal) (m : Memory) : Option (List String) :=
  match p.source with
  | .session => m.assignments.find? p.userId
  | .apiToken tokenId _ => m.apiTokenRoles.find? tokenId

/-- Whoever is accepted has the roles with the ids that the store keeps. -/
theorem Service.rolesIn_of_accepted {s : Service} {now : Time} {headers : Http.Headers}
    (h : ((s.authenticateHeaders now headers).runOn m).1 = .ok p) :
    p.rolesIn m = m.rolesOf (p.keptIds m) := by
  unfold Principal.rolesIn Principal.keptIds
  cases source : p.source with
  | session => rfl
  | apiToken tokenId roles => exact roles_of_apiToken h source

end Gatehouse.Access

namespace Gatehouse.Forward.Engine

open Access (Occasion Principal)
open Http (Headers)
open Store (Memory Once Role Seed User)

variable {e : Engine} {now : Token.Time} {m : Memory} {r : Request} {p : Principal} {user : User}
  {headers : Headers}

/-! ## Lines -/

/-- The roles whose ids may stand in a header. -/
def standingRoles (roles : List Role) : List Role :=
  roles.filter fun role => (Http.fieldValue? (utf8 role.id)).isSome

/-- The name of the lines with roles may stand in a header as it is. -/
theorem fieldName?_role : Http.fieldName? "remote-role" = some "remote-role" := rfl

/-- None of the entries that describe a user has a role. -/
theorem filter_userEntries_role (profile : Access.Profile) :
    ((e.userEntries profile).filter fun entry => Http.fieldName? entry.1 == some "remote-role") =
      [] := by
  have others : ∀ name ∈ ["remote-user-id", "remote-user", "remote-display-name", "remote-mail",
      "remote-mail-verified", "remote-avatar-url"],
      (Http.fieldName? name == some "remote-role") = false := by
    decide +kernel
  refine List.filter_eq_nil_iff.2 fun entry mem => Bool.not_eq_true _ ▸ others entry.1 ?_
  rcases cases_of_mem_userEntries mem with rfl | rfl | rfl | ⟨_, _, rfl | rfl⟩ | rfl <;> simp

/-- There is a line for each role of a user whose id may stand in a header. -/
theorem values_roleLines (p : Principal) (user : User) :
    (e.portrait m (.user p user)).1.values "remote-role" =
      ((standingRoles (p.rolesIn m)).map (·.id)).map utf8 := by
  have all : (roleEntries (p.rolesIn m)).filter
      (fun entry => Http.fieldName? entry.1 == some "remote-role") = roleEntries (p.rolesIn m) := by
    apply List.filter_eq_self.2
    intro entry mem
    obtain ⟨role, -, rfl⟩ := List.mem_map.1 mem
    exact beq_iff_eq.2 fieldName?_role
  rw [portrait_user, values_withEntries, List.filter_append, filter_userEntries_role, all,
    List.nil_append, roleEntries, List.filterMap_map, standingRoles, List.map_map]
  induction p.rolesIn m with
  | nil => rfl
  | cons role roles ih =>
      cases standing : Http.fieldValue? (utf8 role.id) with
      | none => simpa [standing] using ih
      | some value =>
          obtain rfl := Http.eq_of_fieldValue? standing
          simpa [standing] using ih

/-- The lines tell of no role twice when the roles whose ids may stand in a header come once each. -/
theorem nodup_values_roleLines (p : Principal) (user : User) :
    ((e.portrait m (.user p user)).1.values "remote-role").Nodup ↔
      Once (standingRoles (p.rolesIn m)) := by
  rw [values_roleLines, List.nodup_map_iff utf8_injective]
  rfl

/-- Whoever is accepted is let through as an active user, if the policy lets the request pass. -/
theorem decide_user (method : r.method ≠ "OPTIONS") (authentic : e.authentication now m r = .ok p)
    (allowed : ((e.decide now r).run Memory.answer m).1.decision = .allow headers) :
    ∃ user, m.activeUser? p.userId = some user ∧
      e.Passes r (e.portrait m (.user p user)) headers := by
  rw [decide, if_neg (by simpa using method)] at allowed
  split at allowed
  · cases allowed
  rw [run_decideUndenied, authentic] at allowed
  cases active : m.activeUser? p.userId with
  | none =>
      simp only [identified, active] at allowed
      cases allowed
  | some user =>
      simp only [identified, active] at allowed
      exact ⟨user, rfl, applyPolicy_eq_allow_iff.1 allowed⟩

/-! ## Once each -/

/-- How often roles are told.  The store tells those of a user once each when no known role was
assigned to the user twice, and those of a token when the list has no role twice with which the token
was put in.  A user who is let through is told of in one line for each role that the store tells, as
far as its id may stand in a header.  A token that is made gets all roles of its user as often as they
are told, unless some are wanted; then it gets each once. -/
theorem roles_told_once_iff {seed : Seed} {operations : List Store.Operation}
    (reached : (Memory.ofSeed seed).through operations = m) :
    (∀ userId, ∃ roles, m.answer (.rolesOfUser userId) = (.ok roles, m) ∧
      (Once roles ↔ ∀ roleId, m.roles.contains roleId = true →
        (seed.assigns userId ++ operations.filterMap (·.assigns? userId)).count roleId ≤ 1)) ∧
    (∀ tokenId roleIds, m.apiTokenRoles.find? tokenId = some roleIds →
      (∃ token, .query (.addApiToken token roleIds) ∈ operations ∧ token.id = tokenId) ∧
      ∃ roles, m.answer (.rolesOfApiToken tokenId) = (.ok roles, m) ∧
        (Once roles ↔ roleIds.Nodup)) ∧
    (∀ (e : Engine) now r p headers, r.method ≠ "OPTIONS" → e.authentication now m r = .ok p →
      ((e.decide now r).run Memory.answer m).1.decision = .allow headers →
      ∃ user, m.activeUser? p.userId = some user ∧
        e.Passes r (e.portrait m (.user p user)) headers ∧
        (((e.portrait m (.user p user)).1.values "remote-role").Nodup ↔
          Once (standingRoles (m.rolesOf (p.keptIds m))))) ∧
    (∀ (p : Principal) o wanted expiresAt description g m',
      (p.generateApiToken o wanted expiresAt description).runOn m = (.ok g, m') →
      m'.answer (.rolesOfApiToken g.id) = (.ok g.roles, m') ∧
      (wanted = none → m.answer (.rolesOfUser p.userId) = (.ok g.roles, m)) ∧
      (wanted ≠ none → Once g.roles)) := by
  refine ⟨?_, ?_, ?_, ?_⟩
  · intro userId
    exact ⟨_, rfl, Memory.once_rolesOfUser_iff reached userId⟩
  · intro tokenId roleIds listed
    exact ⟨Memory.exists_given_of_run reached listed, _, rfl,
      Memory.once_rolesOfApiToken_iff ⟨seed, operations, reached⟩ listed⟩
  · intro e now r p headers method authentic allowed
    obtain ⟨user, active, passes⟩ := decide_user method authentic allowed
    refine ⟨user, active, passes, ?_⟩
    rw [nodup_values_roleLines, Access.Service.rolesIn_of_accepted authentic]
  · intro p o wanted expiresAt description g m' made
    obtain ⟨stored, all, once⟩ := Access.roles_of_generateApiToken made
    refine ⟨?_, ?_, once⟩
    · rw [← stored]
      rfl
    · intro unwanted
      rw [all unwanted]
      rfl

/-- Alice is an operator. -/
def operatorAlice : Seed :=
  ⟨[⟨⟨"ops", "Operators", ""⟩, []⟩], [⟨Access.alice none, false, ["ops"]⟩]⟩

/-- She is made one once more. -/
def promotion : List Store.Operation :=
  [.upkeep (.assignment "1" "ops")]

/-- The store after that. -/
def promotedAlice : Memory :=
  (Memory.ofSeed operatorAlice).through promotion

/-- An engine without rules and without a policy. -/
def ruleless : Engine :=
  { openHouse with rules := .empty }

/-- A request with a token in a cookie. -/
def cookieRequest (token : String) : Request :=
  ⟨"GET", "http", "house", "/page", "", none,
    ⟨[("cookie", utf8 (ruleless.service.config.accessCookie ++ "=" ++ token))]⟩⟩

/-- Alice is told to be an operator twice, and so is a token that she makes. -/
theorem promotedAlice_told_twice :
    (Memory.ofSeed operatorAlice).through promotion = promotedAlice ∧
    (∃ roles, promotedAlice.answer (.rolesOfUser "1") = (.ok roles, promotedAlice) ∧
      ¬Once roles) ∧
    (∃ token headers,
      ruleless.authentication 1010 promotedAlice (cookieRequest token) = .ok Access.aliceSession ∧
      ((ruleless.decide 1010 (cookieRequest token)).run Memory.answer promotedAlice).1.decision =
        .allow headers ∧
      ¬(headers.values "remote-role").Nodup) ∧
    ∃ g m', (Access.aliceSession.generateApiToken Access.aliceErrand none none "").runOn
        promotedAlice = (.ok g, m') ∧
      ¬Once g.roles := by
  obtain ⟨ofUser, -, lines, made⟩ := roles_told_once_iff (m := promotedAlice) rfl
  have twice : ¬∀ roleId, promotedAlice.roles.contains roleId = true →
      (operatorAlice.assigns "1" ++ promotion.filterMap (·.assigns? "1")).count roleId ≤ 1 :=
    fun once => absurd (once "ops" rfl) (by decide)
  obtain ⟨roles, told, once⟩ := ofUser "1"
  have repeated : ¬Once roles := fun h => twice (once.1 h)
  refine ⟨rfl, ⟨roles, told, repeated⟩, ?_, ?_⟩
  · obtain ⟨token, signed⟩ := Token.exists_sign (a := Access.smallService.config.algorithm)
      Access.smallService_canIssue.secret Access.aliceSession.claims
    have verified : Token.verify ruleless.service.config.key 1010 token =
        .ok Access.aliceSession.claims :=
      Token.verify_newClaims (by decide) (by decide) signed (by decide) (by decide)
    have bare : Http.bearer? (cookieRequest token).headers = none := rfl
    have presented : Access.PresentedToken.ofHeaders? (cookieRequest token).headers
        ruleless.service.config.accessCookie = some (.signed token) := by
      obtain ⟨pair, given⟩ := Token.isPairText_of_sign signed
      rw [Access.PresentedToken.ofHeaders?, bare, cookieRequest,
        Http.Cookie.find?_of_pair (by decide) pair given, Option.none_or, Option.map_some,
        Access.PresentedToken.ofText_signed signed]
    have authentic : ruleless.authentication 1010 promotedAlice (cookieRequest token) =
        .ok Access.aliceSession := by
      rw [authentication, Access.Service.authenticateHeaders, presented]
      show ((ruleless.service.authenticateSigned 1010 token).runOn promotedAlice).1 = _
      rw [Access.Service.runOn_authenticateSigned, verified]
      rfl
    have allowed : ∃ headers, ((ruleless.decide 1010 (cookieRequest token)).run Memory.answer
        promotedAlice).1.decision = .allow headers := by
      have unbarred : ruleless.verdict (cookieRequest token) ≠ .deny := nofun
      have method : ¬((cookieRequest token).method == "OPTIONS") = true := by
        show ¬("GET" == "OPTIONS") = true
        decide
      rw [Engine.decide, if_neg method, if_neg unbarred, run_decideUndenied, authentic]
      exact ⟨_, rfl⟩
    obtain ⟨headers, allowed⟩ := allowed
    obtain ⟨user, -, passes, nodup⟩ := lines ruleless 1010 (cookieRequest token) _ headers
      (show "GET" ≠ "OPTIONS" by decide) authentic allowed
    obtain rfl : headers = _ := passes
    refine ⟨token, _, authentic, allowed, ?_⟩
    rw [nodup]
    decide
  · have making : ∃ g m', (Access.aliceSession.generateApiToken Access.aliceErrand none none
        "").runOn promotedAlice = (.ok g, m') := ⟨_, _, Access.Principal.runOn_generateApiToken _ _ _⟩
    obtain ⟨g, m', made'⟩ := making
    obtain ⟨-, all, -⟩ := made _ _ _ _ _ _ _ made'
    have same := told.symm.trans (all rfl)
    cases same
    exact ⟨g, m', made', repeated⟩

end Gatehouse.Forward.Engine
