import Gatehouse.Access.Session
import Gatehouse.Proofs.Forward.Engine
import Gatehouse.Proofs.Http.Header

/-!
# What is said of a user

Delegated requests are described by header lines and by what a policy is told; users are told their
profile.  Both are read off the records of the store here.

Main definitions:

- `Principal.rolesIn` and `Principal.profileIn`: the roles that apply to a principal and the profile
  of the user.
- `Engine.userEntries` and `Engine.permissionsIn`: the entries that describe a user, and the
  permissions that some roles give.

Main results:

- Theorem `Principal.runOn_roles` and theorem `Principal.runOn_profile`: the roles and the profile
  are found in the store.
- Theorem `Engine.portrait_user` and theorem `Engine.portrait_lines`: the lines that describe a user,
  and what a policy is told.
-/

namespace Gatehouse.Access

open Store (Asking Memory Role User)

variable {m : Memory} {p : Principal}

/-- The roles that apply to a principal: those of the API token, else those of the user. -/
def Principal.rolesIn (p : Principal) (m : Memory) : List Role :=
  match p.source with
  | .apiToken _ roles => roles
  | .session => m.rolesOf (m.assignments.find? p.userId)

theorem Principal.runOn_roles : p.roles.runOn m = (.ok (p.rolesIn m), m) := by
  unfold Principal.roles Principal.rolesIn
  cases p.source with
  | session => exact Flow.runOn_rolesOfUser _
  | apiToken id roles => rfl

/-- What principals are told about the user that they are. -/
def Principal.profileIn (p : Principal) (m : Memory) (user : User) : Profile :=
  let email := m.primaryEmail? user.id
  ⟨user.id, user.username, user.shownName, user.firstName, user.lastName, user.avatar,
    email.map (·.address), email.any (·.verified), m.rolesOf (m.assignments.find? user.id),
    p.claims.loginKind?⟩

/-- Only active users have a profile. -/
theorem Principal.runOn_profile :
    p.profile.runOn m =
      (match m.activeUser? p.userId with
        | none => .error .unauthenticated
        | some user => .ok (p.profileIn m user), m) := by
  rw [Principal.profile, Flow.runOn_bind, Flow.runOn_activeUser]
  cases m.activeUser? p.userId with
  | none => rfl
  | some user =>
      have looked : (Flow.lookup? (Asking.primaryEmail user.id)).runOn m =
          (.ok ((m.primaryEmail? user.id).map fun email => ⟨email.address, email.verified⟩), m) :=
        Flow.runOn_lookup? rfl
      simp only [profileIn]
      rw [Flow.runOn_bind_ok looked, Flow.runOn_bind_ok (Flow.runOn_rolesOfUser user.id)]
      cases m.primaryEmail? user.id <;> rfl

end Gatehouse.Access

namespace Gatehouse.Forward.Engine

open Access (Flow Principal Profile)
open Http (Headers line?)
open Policy (Subject)
open Store (Asking Memory Role User)

variable {e : Engine} {m : Memory} {p : Principal} {user : User}

/-- The permissions that some roles give. -/
def permissionsIn (e : Engine) (m : Memory) (roles : List Role) : List String :=
  e.resolver.resolve (roles.flatMap fun role => (m.permissions.find? role.id).getD [])

theorem runOn_permissionsFor (roles : List Role) :
    (e.permissionsFor roles).runOn m = (.ok (e.permissionsIn m roles), m) := by
  have asked (role : Role) : (Flow.fetch (Asking.permissionsOfRole role.id)).runOn m =
      (.ok ((m.permissions.find? role.id).getD []), m) := Flow.runOn_fetch rfl
  rw [permissionsFor, Flow.runOn_bind_ok (Flow.runOn_mapM asked roles), permissionsIn,
    List.flatMap_def]
  rfl

/-! ## Lines -/

/-- The entries that describe the user of a profile. -/
def userEntries (e : Engine) (profile : Profile) : List (String × String) :=
  [("remote-user-id", profile.id), ("remote-user", profile.username)] ++
    (if profile.displayName.isEmpty then [] else [("remote-display-name", profile.displayName)]) ++
    (match profile.email with
      | some address =>
        [("remote-mail", address),
          ("remote-mail-verified", if profile.emailVerified then "true" else "false")]
      | none => []) ++
    [("remote-avatar-url", e.service.config.publicUrl ++ "/avatar/" ++ profile.id)]

/-- The entries that describe roles. -/
def roleEntries (roles : List Role) : List (String × String) :=
  roles.map fun role => ("remote-role", role.id)

/-- The header with the lines of some entries. -/
def withEntries (headers : Headers) (entries : List (String × String)) : Headers :=
  entries.foldl (fun headers (name, text) => headers.appendText name text) headers

theorem withEntries_append (headers : Headers) (entries more : List (String × String)) :
    withEntries headers (entries ++ more) = withEntries (withEntries headers entries) more :=
  List.foldl_append

theorem roleLines_eq (headers : Headers) (roles : List Role) :
    roleLines headers (roles.map (·.id)) = withEntries headers (roleEntries roles) := by
  rw [roleLines, withEntries, roleEntries, List.foldl_map, List.foldl_map]

/-- What the lines say of a user is what the profile says. -/
theorem runOn_userLines (headers : Headers) (p : Principal) :
    (e.userLines headers user).runOn m =
      (.ok (withEntries headers (e.userEntries (p.profileIn m user))), m) := by
  have looked : (Flow.lookup? (Asking.primaryEmail user.id)).runOn m =
      (.ok ((m.primaryEmail? user.id).map fun email => ⟨email.address, email.verified⟩), m) :=
    Flow.runOn_lookup? rfl
  rw [userLines]
  simp only
  rw [Flow.runOn_bind_ok looked, userEntries, Principal.profileIn]
  cases user.shownName.isEmpty with
  | true => cases m.primaryEmail? user.id <;> rfl
  | false => cases m.primaryEmail? user.id <;> rfl

/-- Users are described by their profile and by the roles that apply to the principal. -/
theorem portrait_user :
    e.portrait m (.user p user) =
      (withEntries .empty (e.userEntries (p.profileIn m user) ++ roleEntries (p.rolesIn m)),
        some (Subject.ofUser user p.claims.loginKind? (p.rolesIn m)
          (e.permissionsIn m (p.rolesIn m)))) := by
  have described := runOn_describe (e := e) (m := m) (.user p user)
  rw [describe, Flow.runOn_bind_ok Principal.runOn_roles,
    Flow.runOn_bind_ok (runOn_userLines .empty p)] at described
  simp only at described
  rw [Flow.runOn_bind_ok (runOn_permissionsFor _), roleLines_eq, ← withEntries_append] at described
  exact (Except.ok.inj (congrArg Prod.fst described)).symm

/-- The lines that describe a user are those of the entries that may stand in a header. -/
theorem portrait_lines :
    (e.portrait m (.user p user)).1.lines =
      (e.userEntries (p.profileIn m user) ++ roleEntries (p.rolesIn m)).filterMap
        fun entry => line? entry.1 entry.2 := by
  rw [portrait_user]
  exact Headers.lines_foldl_appendText .empty _

end Gatehouse.Forward.Engine
