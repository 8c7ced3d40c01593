import Gatehouse.Proofs.Store.Bookkeeping

/-!
# Assignments of roles - How often a role is told

A role that is assigned comes last among those of the user, also when the user has it already, and a
token keeps the list of roles that it was put in with.  So the roles of a user are told as often as they
were assigned, and those of a token as often as its list has them.

Main definitions:

- `Once`: no two of some roles have one id.
- `Operation.assigns?` and `Seed.assigns`: the roles that an operation and a seed assign to a user.

Main results:

- Theorem `Memory.assigned_of_run`: the roles of a user are those that were assigned in the run.
- Theorem `Memory.exists_given_of_run`: the list of a token is one with which it was put in.
- Theorem `Memory.once_rolesOf_iff`: when the roles with some ids are told once each.
- Theorem `Memory.once_rolesOfUser_iff` and theorem `Memory.once_rolesOfApiToken_iff`: when the roles of
  a user and of a token are told once each.
-/

namespace Gatehouse.Store

/-- No two of the roles have one id. -/
def Once (roles : List Role) : Prop :=
  (roles.map (·.id)).Nodup

instance (roles : List Role) : Decidable (Once roles) :=
  inferInstanceAs (Decidable (List.Nodup _))

/-- The role that an operation assigns to a user, if it assigns one. -/
def Operation.assigns? (userId : String) : Operation → Option String
  | .upkeep (.assignment user roleId) => if user = userId then some roleId else none
  | _ => none

/-- The roles that a seed assigns to a user, in their order. -/
def Seed.assigns (seed : Seed) (userId : String) : List String :=
  seed.users.flatMap fun user => if user.user.id = userId then user.roleIds else []

namespace Memory

variable {m : Memory} {seed : Seed} {operations : List Operation} {roleIds : List String}
  {tokenId userId x : String}

/-! ## Runs -/

/-- An operation adds the role that it assigns to those of the user. -/
theorem assigned_after (operation : Operation) :
    (operation.after m).assigned userId =
      m.assigned userId ++ (operation.assigns? userId).toList := by
  cases operation with
  | query q =>
      have same : (m.answer q).2.assignments = m.assignments := (sameRecords_answer m q).assignments
      simp [Operation.after, Operation.assigns?, assigned, same]
  | upkeep change =>
      cases change with
      | assignment user roleId =>
          refine assigned_assignRole.trans ?_
          by_cases own : userId = user
          · simp [Operation.assigns?, own]
          · simp [Operation.assigns?, own, Ne.symm own]
      | totpSecret user secret =>
          show (m.setTotpSecret user secret).assigned userId = _
          unfold setTotpSecret
          split <;> exact (List.append_nil _).symm
      | user | email | role | permissions | recoveryCode => exact (List.append_nil _).symm

/-- A run adds the roles that it assigns to those of the user, in their order. -/
theorem assigned_through (operations : List Operation) :
    (m.through operations).assigned userId =
      m.assigned userId ++ operations.filterMap (·.assigns? userId) := by
  induction operations generalizing m with
  | nil => exact (List.append_nil _).symm
  | cons operation operations ih =>
      have step : (m.through (operation :: operations)).assigned userId =
          ((operation.after m).through operations).assigned userId := rfl
      rw [step, ih, assigned_after, List.append_assoc, List.filterMap_cons]
      cases operation.assigns? userId <;> rfl

/-- A user who is planted gets the roles of the seed. -/
theorem assigned_plantUser (user : SeedUser) :
    (m.plantUser user).assigned userId =
      m.assigned userId ++ if user.user.id = userId then user.roleIds else [] := by
  have added (roleIds : List String) (m : Memory) :
      (roleIds.foldl (fun m roleId => m.assignRole user.user.id roleId) m).assigned userId =
        m.assigned userId ++ if user.user.id = userId then roleIds else [] := by
    induction roleIds generalizing m with
    | nil => simp
    | cons roleId roleIds ih =>
        rw [List.foldl_cons, ih, assigned_assignRole]
        by_cases own : user.user.id = userId
        · simp [own]
        · simp [own, Ne.symm own]
  refine (added user.roleIds _).trans ?_
  cases user.user.email <;> rfl

/-- A store that starts with a seed has the assignments of the seed. -/
theorem assigned_ofSeed (seed : Seed) (userId : String) :
    (ofSeed seed).assigned userId = seed.assigns userId := by
  have planted (users : List SeedUser) (m : Memory) :
      (users.foldl plantUser m).assigned userId = m.assigned userId ++
        users.flatMap fun user => if user.user.id = userId then user.roleIds else [] := by
    induction users generalizing m with
    | nil => simp
    | cons user users ih =>
        rw [List.foldl_cons, ih, assigned_plantUser, List.append_assoc, List.flatMap_cons]
  have kept (m : Memory) (role : SeedRole) : (m.plantRole role).assignments = m.assignments := rfl
  have roles := part_foldl (·.assignments) kept seed.roles empty
  refine (planted seed.users _).trans ?_
  rw [assigned, roles]
  rfl

/-- The roles of a user are those that the seed and the operations of the run assign. -/
theorem assigned_of_run (reached : (ofSeed seed).through operations = m) (userId : String) :
    m.assigned userId = seed.assigns userId ++ operations.filterMap (·.assigns? userId) := by
  rw [← reached, assigned_through, assigned_ofSeed]

/-- An operation leaves the list of a token alone, takes it out, or is that by which the token is put
in. -/
theorem given_of_after {operation : Operation}
    (listed : (operation.after m).apiTokenRoles.find? tokenId = some roleIds) :
    m.apiTokenRoles.find? tokenId = some roleIds ∨
      ∃ token, operation = .query (.addApiToken token roleIds) ∧ token.id = tokenId := by
  cases operation with
  | upkeep change =>
      rw [Operation.after, (apiTokens_maintained m change).2] at listed
      exact .inl listed
  | query q =>
      cases changes : q.changesApiTokens with
      | false =>
          rw [Operation.after, (apiTokens_answer changes).2] at listed
          exact .inl listed
      | true =>
          cases q with
          | addApiToken token others =>
              have put : (m.addApiToken token others).2.apiTokenRoles.find? tokenId =
                  some roleIds := listed
              unfold addApiToken at put
              split at put
              · exact .inl put
              · have found := put.symm.trans (find?_withApiToken_roles (m := m))
                by_cases own : tokenId = token.id
                · rw [if_pos own] at found
                  obtain rfl := Option.some.inj found
                  exact .inr ⟨token, rfl, own.symm⟩
                · rw [if_neg own] at found
                  exact .inl found.symm
          | removeApiToken other user =>
              have left : (m.removeApiToken other user).2.apiTokenRoles.find? tokenId =
                  some roleIds := listed
              rw [removeApiToken_eq] at left
              split at left
              · rw [find?_withoutApiToken_roles] at left
                split at left
                · cases left
                · exact .inl left
              · exact .inl left
          | _ => cases changes

/-- A list of a token after a run was there before, or the token was put in with it. -/
theorem given_of_through (listed : (m.through operations).apiTokenRoles.find? tokenId = some roleIds) :
    m.apiTokenRoles.find? tokenId = some roleIds ∨
      ∃ token, .query (.addApiToken token roleIds) ∈ operations ∧ token.id = tokenId := by
  induction operations generalizing m with
  | nil => exact .inl listed
  | cons operation operations ih =>
      rcases ih listed with before | ⟨token, mem, named⟩
      · rcases given_of_after before with there | ⟨token, rfl, named⟩
        · exact .inl there
        · exact .inr ⟨token, List.mem_cons_self, named⟩
      · exact .inr ⟨token, List.mem_cons_of_mem _ mem, named⟩

/-- A token was put in with its list of roles in the run. -/
theorem exists_given_of_run (reached : (ofSeed seed).through operations = m)
    (listed : m.apiTokenRoles.find? tokenId = some roleIds) :
    ∃ token, .query (.addApiToken token roleIds) ∈ operations ∧ token.id = tokenId := by
  rw [← reached] at listed
  refine (given_of_through listed).resolve_left fun seeded => ?_
  have planted : (ofSeed seed).Reached := ⟨seed, [], rfl⟩
  obtain ⟨record, stored⟩ := (planted.inStep.tokens tokenId).1 ⟨roleIds, seeded⟩
  rw [ofSeed_apiTokens] at stored
  cases stored

/-! ## Repetitions -/

/-- The roles with some ids are told once each when no id of a known role stands twice. -/
theorem once_rolesOf_iff {ids : Option (List String)} :
    Once (m.rolesOf ids) ↔
      ∀ roleId, m.roles.contains roleId = true → (ids.getD []).count roleId ≤ 1 := by
  rw [Once, ids_rolesOf, knownIds, List.nodup_iff_count]
  refine forall_congr' fun roleId => ?_
  cases known : m.roles.contains roleId with
  | true => simp [List.count_filter known]
  | false =>
      have absent : roleId ∉ (ids.getD []).filter m.roles.contains := by
        simp [known]
      simp [List.count_eq_zero.2 absent]

/-- The roles of a user are told once each when no known role was assigned to the user twice. -/
theorem once_rolesOfUser_iff (reached : (ofSeed seed).through operations = m) (userId : String) :
    Once (m.rolesOf (m.assignments.find? userId)) ↔
      ∀ roleId, m.roles.contains roleId = true →
        (seed.assigns userId ++ operations.filterMap (·.assigns? userId)).count roleId ≤ 1 := by
  rw [once_rolesOf_iff, ← assigned_of_run reached]
  rfl

/-- The roles of a token are told once each when its list has no id twice. -/
theorem once_rolesOfApiToken_iff (reached : m.Reached)
    (listed : m.apiTokenRoles.find? tokenId = some roleIds) :
    Once (m.rolesOf (m.apiTokenRoles.find? tokenId)) ↔ roleIds.Nodup := by
  have known := reached.inStep.known tokenId roleIds listed
  have all : roleIds.filter m.roles.contains = roleIds := List.filter_eq_self.2 known
  rw [Once, ids_rolesOf, knownIds, listed, Option.getD_some, all]

end Memory

end Gatehouse.Store
