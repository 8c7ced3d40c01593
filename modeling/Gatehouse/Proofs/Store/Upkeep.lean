import Gatehouse.Proofs.Store.ApiTokens

/-!
# Upkeep of the store

Users, addresses, roles, assignments, permissions and recovery codes are put into the store by its
upkeep.  Upkeep takes no role away: assignments and known roles only become more.  It has nothing to do
with API tokens.

Main definitions:

- `Upkeep`: the changes by upkeep, with `Memory.maintained`, the store after one.
- `Memory.assigned`: the ids of the roles that are assigned to a user.
- `Memory.Grows`: assignments and known roles become more.

Main results:

- Theorem `Memory.grows_maintained`: upkeep takes no role away.
- Theorem `Memory.apiTokens_maintained`: upkeep leaves all API tokens alone.
- Theorem `Memory.ofSeed_apiTokens`: a store that starts with a seed has no API tokens.
-/

namespace Gatehouse.Store

/-- A change of the store by its upkeep. -/
inductive Upkeep where
  | user (user : User)
  | totpSecret (userId : String) (secret : Option String)
  | email (userId : String) (email : StoredEmail)
  | role (role : Role)
  | assignment (userId roleId : String)
  | permissions (roleId : String) (permissions : List String)
  | recoveryCode (userId digest : String)

namespace Memory

variable {m m' m'' : Memory} {userId roleId x : String}

/-- The store after a change by its upkeep. -/
def maintained (m : Memory) : Upkeep → Memory
  | .user user => m.putUser user
  | .totpSecret userId secret => m.setTotpSecret userId secret
  | .email userId email => m.addEmail userId email
  | .role role => m.putRole role
  | .assignment userId roleId => m.assignRole userId roleId
  | .permissions roleId permissions => m.setPermissions roleId permissions
  | .recoveryCode userId digest => m.addRecoveryCode userId digest

/-- The ids of the roles that are assigned to a user. -/
def assigned (m : Memory) (userId : String) : List String :=
  (m.assignments.find? userId).getD []

/-! ## Roles -/

/-- Assigned roles stay assigned and known roles stay known. -/
structure Grows (m m' : Memory) : Prop where
  assigned : ∀ userId, ∀ id ∈ m.assigned userId, id ∈ m'.assigned userId
  known : ∀ id, m.roles.contains id = true → m'.roles.contains id = true

theorem Grows.refl (m : Memory) : Grows m m :=
  ⟨fun _ _ h => h, fun _ h => h⟩

theorem Grows.trans (h : Grows m m') (h' : Grows m' m'') : Grows m m'' where
  assigned userId id hid := h'.assigned userId id (h.assigned userId id hid)
  known id hid := h'.known id (h.known id hid)

theorem SameRecords.grows (h : SameRecords m m') : Grows m m' where
  assigned userId id hid := by
    rw [Memory.assigned, h.assignments]
    exact hid
  known id hid := by
    rw [h.roles]
    exact hid

/-- A role that is assigned comes last. -/
theorem assigned_assignRole :
    (m.assignRole userId roleId).assigned x =
      if x = userId then m.assigned userId ++ [roleId] else m.assigned x := by
  unfold assigned assignRole Table.change
  by_cases same : x = userId
  · subst same
    simp
  · simp [Table.find?_put_of_ne _ same, same]

/-- Upkeep takes no role away. -/
theorem grows_maintained (m : Memory) (upkeep : Upkeep) : Grows m (m.maintained upkeep) := by
  cases upkeep with
  | totpSecret userId secret =>
      show Grows m (m.setTotpSecret userId secret)
      unfold setTotpSecret
      split
      · exact ⟨fun _ _ h => h, fun _ h => h⟩
      · exact .refl m
  | role role =>
      refine ⟨fun _ _ h => h, fun id hid => ?_⟩
      rw [Register.contains_eq_isSome] at hid ⊢
      show ((m.roles.put role).find? id).isSome = true
      rw [Register.find?_put]
      split
      · rfl
      · exact hid
  | assignment userId roleId =>
      refine ⟨fun user id hid => ?_, fun _ h => h⟩
      show id ∈ (m.assignRole userId roleId).assigned user
      rw [assigned_assignRole]
      by_cases same : user = userId
      · subst same
        simpa using Or.inl hid
      · rwa [if_neg same]
  | user user => exact ⟨fun _ _ h => h, fun _ h => h⟩
  | email userId email => exact ⟨fun _ _ h => h, fun _ h => h⟩
  | permissions roleId permissions => exact ⟨fun _ _ h => h, fun _ h => h⟩
  | recoveryCode userId digest => exact ⟨fun _ _ h => h, fun _ h => h⟩

/-! ## API tokens -/

/-- Upkeep leaves all API tokens alone. -/
theorem apiTokens_maintained (m : Memory) (upkeep : Upkeep) :
    (m.maintained upkeep).apiTokens = m.apiTokens ∧
      (m.maintained upkeep).apiTokenRoles = m.apiTokenRoles := by
  cases upkeep with
  | totpSecret userId secret =>
      show (m.setTotpSecret userId secret).apiTokens = m.apiTokens ∧
        (m.setTotpSecret userId secret).apiTokenRoles = m.apiTokenRoles
      unfold setTotpSecret
      split <;> exact ⟨rfl, rfl⟩
  | _ => exact ⟨rfl, rfl⟩

/-- What every step of a fold leaves alone is the same at its end. -/
theorem part_foldl {α γ : Type} (part : Memory → γ) {f : Memory → α → Memory}
    (step : ∀ m a, part (f m a) = part m) (l : List α) (m : Memory) :
    part (l.foldl f m) = part m := by
  induction l generalizing m with
  | nil => rfl
  | cons a l ih => exact (ih _).trans (step m a)

theorem plantRole_apiTokens (m : Memory) (role : SeedRole) :
    (m.plantRole role).apiTokens = m.apiTokens := rfl

theorem plantUser_apiTokens (m : Memory) (user : SeedUser) :
    (m.plantUser user).apiTokens = m.apiTokens := by
  have assigned (m : Memory) (roleId : String) :
      (m.assignRole user.user.id roleId).apiTokens = m.apiTokens := rfl
  refine (part_foldl (·.apiTokens) assigned user.roleIds _).trans ?_
  cases user.user.email <;> rfl

/-- A store that starts with a seed has no API tokens. -/
theorem ofSeed_apiTokens (seed : Seed) : (ofSeed seed).apiTokens = .empty :=
  (part_foldl (·.apiTokens) plantUser_apiTokens seed.users _).trans
    (part_foldl (·.apiTokens) plantRole_apiTokens seed.roles _)

end Memory

end Gatehouse.Store
