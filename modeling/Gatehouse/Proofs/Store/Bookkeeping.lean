import Gatehouse.Proofs.Store.Upkeep
import Mathlib.Data.List.Forall2

/-!
# API tokens in the store - Bookkeeping

The store keeps the record of an API token and the list of its roles in two tables.  Whatever is
done to the store, the tables have the same tokens, and the lists only have roles that the store
knows: a token is put into both tables and taken out of both, and no role is ever taken away.

Main definitions:

- `Operation` and `Memory.through`: something that is done to the store, and the store after a
  sequence of operations.
- `Memory.Reached`: stores that come about from a seed.
- `Memory.InStep`: the tables of records and of role lists are in step.

Main results:

- Theorem `Memory.InStep.after`: every operation keeps the tables in step.
- Theorem `Memory.Reached.inStep`: they are in step in every store that comes about.
- Theorem `Memory.addApiToken_of_unknown` and theorem `Memory.removeApiToken_of_other`: what is
  refused leaves the store as it is.
- Theorem `Memory.apiTokens_kept_in_step`: the bookkeeping of API tokens as a whole.
-/

namespace Gatehouse.Store

open List (Forall₂)

/-- Something that is done to the store: a query is answered, or the store is kept up. -/
inductive Operation where
  | query (q : Query)
  | upkeep (change : Upkeep)

/-- The store after an operation. -/
def Operation.after (m : Memory) : Operation → Memory
  | .query q => (m.answer q).2
  | .upkeep change => m.maintained change

namespace Memory

variable {m m' : Memory} {token : ApiTokenRecord} {roleIds : List String}
  {id tokenId userId : String}

/-- The store after a sequence of operations. -/
def through (m : Memory) (operations : List Operation) : Memory :=
  operations.foldl Operation.after m

theorem through_append (m : Memory) (operations more : List Operation) :
    m.through (operations ++ more) = (m.through operations).through more :=
  List.foldl_append

/-- What holds of a store and is kept by every operation holds after all of them. -/
theorem through_induction {P : Memory → Prop} (start : P m)
    (step : ∀ m (operation : Operation), P m → P (operation.after m))
    (operations : List Operation) : P (m.through operations) := by
  induction operations generalizing m with
  | nil => exact start
  | cons operation operations ih => exact ih (step m operation start)

/-! ## Seeds -/

/-- What is done by operations for each of some items is done by operations for all of them. -/
theorem exists_through_foldl {α : Type} {f : Memory → α → Memory}
    (step : ∀ m a, ∃ operations, f m a = m.through operations) (l : List α) (m : Memory) :
    ∃ operations, l.foldl f m = m.through operations := by
  induction l generalizing m with
  | nil => exact ⟨[], rfl⟩
  | cons a l ih =>
      obtain ⟨operations, first⟩ := step m a
      obtain ⟨more, rest⟩ := ih (f m a)
      refine ⟨operations ++ more, ?_⟩
      rw [List.foldl_cons, rest, through_append, first]

/-- A role is planted by the upkeep of the store. -/
theorem exists_through_plantRole (m : Memory) (role : SeedRole) :
    ∃ operations, m.plantRole role = m.through operations :=
  ⟨[.upkeep (.role role.role), .upkeep (.permissions role.role.id role.permissions)], rfl⟩

/-- A user is planted by the upkeep of the store. -/
theorem exists_through_plantUser (m : Memory) (user : SeedUser) :
    ∃ operations, m.plantUser user = m.through operations := by
  have assigned (m : Memory) (roleId : String) :
      ∃ operations, m.assignRole user.user.id roleId = m.through operations :=
    ⟨[.upkeep (.assignment user.user.id roleId)], rfl⟩
  let added : List Operation := user.user.email.toList.map fun address =>
    .upkeep (.email user.user.id ⟨address, user.emailVerified, true⟩)
  obtain ⟨operations, rest⟩ := exists_through_foldl assigned user.roleIds
    (m.through (.upkeep (.user { user.user with email := none }) :: added))
  refine ⟨.upkeep (.user { user.user with email := none }) :: added ++ operations, ?_⟩
  rw [through_append, ← rest, plantUser]
  cases given : user.user.email <;> simp only [added, given] <;> rfl

/-- A store that starts with a seed comes about by operations on an empty one. -/
theorem exists_through_ofSeed (seed : Seed) :
    ∃ operations, ofSeed seed = empty.through operations := by
  obtain ⟨roles, planted⟩ := exists_through_foldl exists_through_plantRole seed.roles empty
  obtain ⟨users, rest⟩ :=
    exists_through_foldl exists_through_plantUser seed.users (empty.through roles)
  refine ⟨roles ++ users, ?_⟩
  rw [ofSeed, planted, rest, through_append]

/-- The store comes about by a sequence of operations from one that starts with a seed. -/
def Reached (m : Memory) : Prop :=
  ∃ seed operations, (ofSeed seed).through operations = m

/-! ## Tables in step -/

/-- A token has a list of roles exactly when it has a record, and the roles in the list are known.
-/
structure InStep (m : Memory) : Prop where
  tokens : ∀ id, (∃ roleIds, m.apiTokenRoles.find? id = some roleIds) ↔
    ∃ record, m.apiTokens.find? id = some record
  known : ∀ id roleIds, m.apiTokenRoles.find? id = some roleIds →
    ∀ roleId ∈ roleIds, m.roles.contains roleId = true

/-- Tables that are left alone stay in step, because no role is taken away. -/
theorem InStep.of_same (h : m.InStep) (apiTokens : m'.apiTokens = m.apiTokens)
    (roles : m'.apiTokenRoles = m.apiTokenRoles) (grows : m.Grows m') : m'.InStep := by
  constructor
  · intro id
    rw [apiTokens, roles]
    exact h.tokens id
  · intro id roleIds listed roleId mem
    rw [roles] at listed
    exact grows.known roleId (h.known id roleIds listed roleId mem)

/-- A token with known roles is put into both tables. -/
theorem InStep.withApiToken (h : m.InStep)
    (known : ∀ roleId ∈ roleIds, m.roles.contains roleId = true) :
    (m.withApiToken token roleIds).InStep := by
  constructor
  · intro id
    simp only [find?_withApiToken, find?_withApiToken_roles]
    by_cases same : id = token.id
    · simp [same]
    · simpa [same] using h.tokens id
  · intro id listed
    rw [find?_withApiToken_roles]
    by_cases same : id = token.id
    · intro new
      rw [if_pos same] at new
      obtain rfl := Option.some.inj new
      exact known
    · rw [if_neg same]
      exact h.known id listed

/-- A token is taken out of both tables. -/
theorem InStep.withoutApiToken (h : m.InStep) : (m.withoutApiToken tokenId).InStep := by
  constructor
  · intro id
    simp only [find?_withoutApiToken, find?_withoutApiToken_roles]
    by_cases same : id = tokenId
    · simp [same]
    · simpa [same] using h.tokens id
  · intro id listed
    rw [find?_withoutApiToken_roles]
    by_cases same : id = tokenId
    · simp [same]
    · rw [if_neg same]
      exact h.known id listed

/-! ## What is refused -/

/-- A token with a role that the store does not know is not put in.  The first such role is named.
-/
theorem addApiToken_of_unknown (token : ApiTokenRecord)
    (unknown : ∃ roleId ∈ roleIds, m.roles.contains roleId = false) :
    ∃ before missing after, roleIds = before ++ missing :: after ∧
      (∀ roleId ∈ before, m.roles.contains roleId = true) ∧
      m.roles.contains missing = false ∧
      m.addApiToken token roleIds = (.error (.other ("unknown role " ++ missing)), m) := by
  cases found : roleIds.find? fun roleId => !m.roles.contains roleId with
  | none =>
      obtain ⟨roleId, mem, absent⟩ := unknown
      have present := List.find?_eq_none.1 found roleId mem
      simp [absent] at present
  | some missing =>
      obtain ⟨absent, before, after, place, earlier⟩ := List.find?_eq_some_iff_append.1 found
      refine ⟨before, missing, after, place, ?_, by simpa using absent, ?_⟩
      · intro roleId mem
        simpa using earlier roleId mem
      · rw [addApiToken, found]

/-- Whoever does not own a token does not take it out. -/
theorem removeApiToken_of_other
    (other : ∀ record, m.apiTokens.find? tokenId = some record → record.userId ≠ userId) :
    m.removeApiToken tokenId userId = (0, m) := by
  have notOwned : ¬m.ownsApiToken userId tokenId = true := by
    rw [ownsApiToken_iff]
    rintro ⟨record, found, owned⟩
    exact other record found owned
  rw [removeApiToken_eq, if_neg notOwned]

/-- The reply to the removal of a token tells how many tokens were removed. -/
theorem answer_removeApiToken {removed : Nat}
    (h : m.removeApiToken tokenId userId = (removed, m')) :
    m.answer (.removeApiToken tokenId userId) = (.ok removed, m') := by
  simp only [answer, h]

/-! ## Every operation -/

/-- A token is only put in when all its roles are known. -/
theorem inStep_addApiToken (h : m.InStep) : (m.addApiToken token roleIds).2.InStep := by
  by_cases unknown : ∃ roleId ∈ roleIds, m.roles.contains roleId = false
  · obtain ⟨-, missing, -, -, -, -, refused⟩ := addApiToken_of_unknown token unknown
    rw [refused]
    exact h
  · have known : ∀ roleId ∈ roleIds, m.roles.contains roleId = true := by
      intro roleId mem
      cases present : m.roles.contains roleId with
      | true => rfl
      | false => exact absurd ⟨roleId, mem, present⟩ unknown
    rw [addApiToken_of_known known]
    exact h.withApiToken known

theorem inStep_removeApiToken (h : m.InStep) : (m.removeApiToken tokenId userId).2.InStep := by
  rw [removeApiToken_eq]
  split
  · exact h.withoutApiToken
  · exact h

/-- Every operation keeps the tables in step. -/
theorem InStep.after (h : m.InStep) (operation : Operation) : (operation.after m).InStep := by
  -- Two queries change the tables of tokens; all else leaves them alone and takes no role away.
  cases operation with
  | upkeep change =>
      obtain ⟨apiTokens, roles⟩ := apiTokens_maintained m change
      exact h.of_same apiTokens roles (grows_maintained m change)
  | query q =>
      cases changes : q.changesApiTokens with
      | false =>
          obtain ⟨apiTokens, roles⟩ := apiTokens_answer (m := m) changes
          exact h.of_same apiTokens roles (sameRecords_answer m q).grows
      | true =>
          cases q with
          | addApiToken token roleIds => exact inStep_addApiToken h
          | removeApiToken tokenId userId => exact inStep_removeApiToken h
          | _ => cases changes

/-- An empty store has neither tokens nor lists of roles. -/
theorem inStep_empty : empty.InStep := by
  constructor
  · intro id
    exact ⟨nofun, nofun⟩
  · intro id roleIds listed
    cases listed

/-- The tables are in step in every store that comes about. -/
theorem Reached.inStep (reached : m.Reached) : m.InStep := by
  obtain ⟨seed, operations, rfl⟩ := reached
  obtain ⟨planting, planted⟩ := exists_through_ofSeed seed
  rw [planted, ← through_append]
  exact through_induction inStep_empty (fun _ operation h => h.after operation) _

/-! ## The roles of a token -/

/-- Of known roles each one is found, in their order. -/
theorem forall₂_rolesOf (known : ∀ roleId ∈ roleIds, m.roles.contains roleId = true) :
    Forall₂ (fun roleId role => m.roles.find? roleId = some role) roleIds
      (m.rolesOf (some roleIds)) := by
  unfold rolesOf
  induction roleIds with
  | nil => exact .nil
  | cons roleId rest ih =>
      rw [List.forall_mem_cons, Register.contains_eq_isSome] at known
      obtain ⟨role, found⟩ := Option.isSome_iff_exists.1 known.1
      simp only [Option.getD_some, List.filterMap_cons, found] at ih ⊢
      exact .cons found (ih known.2)

/-- In every store that comes about, a token has a list of roles exactly when it has a record, and
all roles in the list are known: who asks for the roles of a token is told one for each id, in
order.  A token with a role that the store does not know is refused and the store is left as it is;
one with known roles is put in.  Whoever does not own a token cannot take it out, and the store is
left as it is; the owner can. -/
theorem apiTokens_kept_in_step (reached : m.Reached) :
    (∀ id, (∃ roleIds, m.apiTokenRoles.find? id = some roleIds) ↔
      ∃ record, m.apiTokens.find? id = some record) ∧
    (∀ id roleIds, m.apiTokenRoles.find? id = some roleIds →
      ∃ roles : List Role, m.answer (.rolesOfApiToken id) = (.ok roles, m) ∧
        Forall₂ (fun roleId role => role.id = roleId ∧ m.roles.find? roleId = some role)
          roleIds roles) ∧
    (∀ token roleIds, (∃ roleId ∈ roleIds, m.roles.contains roleId = false) →
      ∃ before missing after, roleIds = before ++ missing :: after ∧
        (∀ roleId ∈ before, m.roles.contains roleId = true) ∧
        m.roles.contains missing = false ∧
        m.answer (.addApiToken token roleIds) =
          (.error (.other ("unknown role " ++ missing)), m)) ∧
    (∀ token roleIds, (∀ roleId ∈ roleIds, m.roles.contains roleId = true) →
      m.answer (.addApiToken token roleIds) = (.ok (), m.withApiToken token roleIds)) ∧
    (∀ tokenId userId,
      (∀ record, m.apiTokens.find? tokenId = some record → record.userId ≠ userId) →
        m.answer (.removeApiToken tokenId userId) = (.ok (0 : Nat), m)) ∧
    (∀ tokenId record, m.apiTokens.find? tokenId = some record →
      m.answer (.removeApiToken tokenId record.userId) =
        (.ok (1 : Nat), m.withoutApiToken tokenId)) := by
  refine ⟨reached.inStep.tokens, ?_, ?_, ?_, ?_, ?_⟩
  · intro id roleIds listed
    refine ⟨m.rolesOf (m.apiTokenRoles.find? id), rfl, ?_⟩
    rw [listed]
    refine (forall₂_rolesOf (reached.inStep.known id roleIds listed)).imp ?_
    intro roleId role found
    exact ⟨Register.nameOf_of_find? found, found⟩
  · intro token roleIds unknown
    exact addApiToken_of_unknown _ unknown
  · intro token roleIds known
    exact addApiToken_of_known known
  · intro tokenId userId other
    exact answer_removeApiToken (removeApiToken_of_other other)
  · intro tokenId record found
    have owned : m.ownsApiToken record.userId tokenId = true :=
      ownsApiToken_iff.2 ⟨record, found, rfl⟩
    apply answer_removeApiToken
    rw [removeApiToken_eq, if_pos owned]

/-- The readers of a house. -/
def readerRole : Role := ⟨"reader", "Readers", ""⟩

/-- A token of Alice. -/
def aliceBadge : ApiTokenRecord := ⟨"t-1", "digest", "it.abc", "ci", "u-alice", 1, none⟩

/-- A store that knows the readers and has a token of Alice with their role. -/
def badgeStore : Memory :=
  (ofSeed ⟨[⟨readerRole, ["read"]⟩], []⟩).through [.query (.addApiToken aliceBadge ["reader"])]

/-- The token of Alice has the role of the readers.  It is not replaced by one with a role that
nobody knows, and Bob cannot take it out. -/
theorem badgeStore_in_step :
    badgeStore.Reached ∧
    (∃ roles : List Role, badgeStore.answer (.rolesOfApiToken "t-1") = (.ok roles, badgeStore) ∧
      roles.map (·.id) = ["reader"]) ∧
    (badgeStore.answer (.addApiToken aliceBadge ["reader", "writer"])).2 = badgeStore ∧
    badgeStore.answer (.removeApiToken "t-1" "u-bob") = (.ok (0 : Nat), badgeStore) := by
  have reached : badgeStore.Reached := ⟨_, _, rfl⟩
  obtain ⟨-, told, refused, -, kept, -⟩ := apiTokens_kept_in_step reached
  have listed : badgeStore.apiTokenRoles.find? "t-1" = some ["reader"] := by decide
  have stored : badgeStore.apiTokens.find? "t-1" = some aliceBadge := by decide
  have unknown : badgeStore.roles.contains "writer" = false := by decide
  refine ⟨reached, ?_, ?_, ?_⟩
  · obtain ⟨roles, answered, named⟩ := told "t-1" ["reader"] listed
    refine ⟨roles, answered, ?_⟩
    cases named with
    | cons first rest =>
        cases rest
        simp [first.1]
  · obtain ⟨-, missing, -, -, -, -, answered⟩ :=
      refused aliceBadge ["reader", "writer"] ⟨"writer", by simp, unknown⟩
    rw [answered]
  · apply kept
    intro record found
    rw [stored] at found
    obtain rfl := Option.some.inj found
    decide

end Memory

end Gatehouse.Store
