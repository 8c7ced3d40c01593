import Gatehouse.Store.Memory

/-!
# API tokens in the store

The store in memory keeps a record and a list of roles for each API token.  Both are put in and taken
out together.  Users, their addresses, roles, assignments and permissions are changed by no query at
all.

Main definitions:

- `Memory.withApiToken` and `Memory.withoutApiToken`: the store with one more and one fewer token.
- `Memory.knownIds`: the ids among some that the store knows a role under.
- `Memory.SameRecords`: two stores agree on all that only the upkeep of the store changes.

Main results:

- Theorem `Memory.mem_withApiToken` and theorem `Memory.mem_withoutApiToken`: the tokens that there
  are then.
- Theorem `Memory.addApiToken_of_known` and theorem `Memory.removeApiToken_eq`: when a token is put
  in and taken out.
- Theorem `Memory.sameRecords_run`: whatever an action asks, the records are those that they were.
- Theorem `Memory.apiTokens_answer`: the queries that leave all tokens alone.
-/

namespace Gatehouse.Store

/-- Does the query put a token in or take one out? -/
def Query.changesApiTokens : Query → Bool
  | .addApiToken _ _ | .removeApiToken _ _ => true
  | _ => false

namespace Memory

variable {m m' m'' : Memory} {token : ApiTokenRecord} {roleIds : List String}
  {tokenId userId x : String} {q : Query}

/-- The store with one more token. -/
def withApiToken (m : Memory) (token : ApiTokenRecord) (roleIds : List String) : Memory :=
  { m with
    apiTokens := m.apiTokens.put token
    apiTokenRoles := m.apiTokenRoles.put token.id roleIds }

/-- The store without a token. -/
def withoutApiToken (m : Memory) (tokenId : String) : Memory :=
  { m with
    apiTokens := m.apiTokens.erase tokenId
    apiTokenRoles := m.apiTokenRoles.erase tokenId }

/-- The ids among some that the store knows a role under. -/
def knownIds (m : Memory) (ids : Option (List String)) : List String :=
  (ids.getD []).filter m.roles.contains

/-- Does the token belong to the user? -/
def ownsApiToken (m : Memory) (userId tokenId : String) : Bool :=
  (m.apiTokens.find? tokenId).any (·.userId == userId)

theorem ownsApiToken_iff :
    m.ownsApiToken userId tokenId = true ↔
      ∃ record, m.apiTokens.find? tokenId = some record ∧ record.userId = userId := by
  simp [ownsApiToken, Option.any_eq_true]

/-! ## Putting in and taking out -/

theorem find?_withApiToken :
    (m.withApiToken token roleIds).apiTokens.find? x =
      if x = token.id then some token else m.apiTokens.find? x :=
  m.apiTokens.find?_put token x

theorem find?_withApiToken_roles :
    (m.withApiToken token roleIds).apiTokenRoles.find? x =
      if x = token.id then some roleIds else m.apiTokenRoles.find? x := by
  split
  · rename_i same
    subst same
    exact m.apiTokenRoles.find?_put_self _ _
  · rename_i other
    exact m.apiTokenRoles.find?_put_of_ne other _

theorem find?_withoutApiToken :
    (m.withoutApiToken tokenId).apiTokens.find? x =
      if x = tokenId then none else m.apiTokens.find? x :=
  m.apiTokens.find?_erase tokenId x

theorem find?_withoutApiToken_roles :
    (m.withoutApiToken tokenId).apiTokenRoles.find? x =
      if x = tokenId then none else m.apiTokenRoles.find? x := by
  split
  · rename_i same
    subst same
    exact m.apiTokenRoles.find?_erase_self _
  · rename_i other
    exact m.apiTokenRoles.find?_erase_of_ne other

/-- The tokens are the new one and those with other ids. -/
theorem mem_withApiToken {record : ApiTokenRecord} :
    record ∈ (m.withApiToken token roleIds).apiTokens.data ↔
      record = token ∨ record ∈ m.apiTokens.data ∧ record.id ≠ token.id := by
  rw [Register.mem_data_iff, find?_withApiToken, Register.mem_data_iff]
  by_cases same : record.id = token.id
  · simp [same, eq_comm]
  · have other : record ≠ token := fun h => same (congrArg ApiTokenRecord.id h)
    simp [same, other]

/-- The tokens are those with other ids. -/
theorem mem_withoutApiToken {record : ApiTokenRecord} :
    record ∈ (m.withoutApiToken tokenId).apiTokens.data ↔
      record ∈ m.apiTokens.data ∧ record.id ≠ tokenId := by
  rw [Register.mem_data_iff, find?_withoutApiToken, Register.mem_data_iff]
  by_cases same : record.id = tokenId
  · simp [same]
  · simp [same]

/-- A token is put in with roles that the store knows. -/
theorem addApiToken_of_known (known : ∀ id ∈ roleIds, m.roles.contains id = true) :
    m.addApiToken token roleIds = (.ok (), m.withApiToken token roleIds) := by
  have allKnown : roleIds.find? (fun id => !m.roles.contains id) = none := by
    rw [List.find?_eq_none]
    intro id hid
    simp [known id hid]
  rw [addApiToken, allKnown]
  rfl

/-- Only the owner of a token takes it out. -/
theorem removeApiToken_eq :
    m.removeApiToken tokenId userId =
      if m.ownsApiToken userId tokenId then (1, m.withoutApiToken tokenId) else (0, m) := rfl

/-- The ids of the roles that the store knows among some. -/
theorem ids_rolesOf (ids : Option (List String)) :
    (m.rolesOf ids).map (·.id) = m.knownIds ids := by
  unfold rolesOf knownIds
  induction ids.getD [] with
  | nil => rfl
  | cons id ids ih =>
      rw [List.filterMap_cons, List.filter_cons, Register.contains_eq_isSome]
      cases found : m.roles.find? id with
      | none => simpa using ih
      | some role =>
          have named : role.id = id := Register.nameOf_of_find? found
          simpa [named] using ih

/-- The roles of the store are found under their ids. -/
theorem contains_of_mem_rolesOf {ids : Option (List String)} {role : Role}
    (h : role ∈ m.rolesOf ids) : role.id ∈ ids.getD [] ∧ m.roles.contains role.id = true := by
  have known : role.id ∈ m.knownIds ids := by
    rw [← ids_rolesOf]
    exact List.mem_map.2 ⟨role, h, rfl⟩
  exact List.mem_filter.1 known

/-! ## What no query changes -/

/-- The stores have the same users, addresses, roles, assignments and permissions. -/
structure SameRecords (m m' : Memory) : Prop where
  users : m'.users = m.users
  emails : m'.emails = m.emails
  roles : m'.roles = m.roles
  assignments : m'.assignments = m.assignments
  permissions : m'.permissions = m.permissions

theorem SameRecords.refl (m : Memory) : SameRecords m m := by
  constructor <;> rfl

theorem SameRecords.trans (h : SameRecords m m') (h' : SameRecords m' m'') :
    SameRecords m m'' where
  users := h'.users.trans h.users
  emails := h'.emails.trans h.emails
  roles := h'.roles.trans h.roles
  assignments := h'.assignments.trans h.assignments
  permissions := h'.permissions.trans h.permissions

/-- No query changes the records. -/
theorem sameRecords_answer (m : Memory) (q : Query) : SameRecords m (m.answer q).2 := by
  cases q with
  | takeRecoveryCode userId digest =>
      show SameRecords m (m.takeRecoveryCode userId digest).2
      unfold takeRecoveryCode
      split <;> constructor <;> rfl
  | addApiToken token roleIds =>
      show SameRecords m (m.addApiToken token roleIds).2
      unfold addApiToken
      split <;> constructor <;> rfl
  | removeApiToken tokenId userId =>
      show SameRecords m (m.removeApiToken tokenId userId).2
      rw [removeApiToken_eq]
      split <;> constructor <;> rfl
  | _ => constructor <;> rfl

/-- Whatever an action asks, the records are those that they were. -/
theorem sameRecords_run {α : Type} (x : Action α) (m : Memory) :
    SameRecords m (x.run Memory.answer m).2 := by
  induction x generalizing m with
  | done a => exact .refl m
  | query q next ih => exact (sameRecords_answer m q).trans (ih _ _)

/-- The other queries leave all tokens alone. -/
theorem apiTokens_answer (other : q.changesApiTokens = false) :
    (m.answer q).2.apiTokens = m.apiTokens ∧ (m.answer q).2.apiTokenRoles = m.apiTokenRoles := by
  cases q with
  | addApiToken token roleIds => cases other
  | removeApiToken tokenId userId => cases other
  | takeRecoveryCode userId digest =>
      show (m.takeRecoveryCode userId digest).2.apiTokens = m.apiTokens ∧
        (m.takeRecoveryCode userId digest).2.apiTokenRoles = m.apiTokenRoles
      unfold takeRecoveryCode
      split <;> exact ⟨rfl, rfl⟩
  | _ => exact ⟨rfl, rfl⟩

end Memory

end Gatehouse.Store
