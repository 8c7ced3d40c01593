import Gatehouse.Proofs.Access.ApiTokens
import Gatehouse.Proofs.Access.Login
import Gatehouse.Proofs.Store.Upkeep

/-!
# Deeds - Runs that make and delete API tokens

A run is a list of deeds: API tokens are made and deleted, users log in, other requests ask their
queries, and the store is kept up, by anybody and in any order.  What one deed can do is told once;
later proofs go through its cases and are by induction on the run.

Main definitions:

- `Deed`, `Deed.after` and `Memory.during`: one deed and a run of them.
- `Deed.Does`: what a deed does to the store.

Main results:

- Theorem `Deed.does`: what a deed does.
- Theorem `Memory.grows_during`: no run takes a role away.
-/

namespace Gatehouse.Access

open Store (Memory Query Role Upkeep)
open Token (Time)

/-- Something that happens to the store. -/
inductive Deed where
  /-- An API token is asked for. -/
  | generate (p : Principal) (o : Occasion) (wanted : Option (List String))
    (expiresAt : Option Time) (description : String)
  /-- The deletion of an API token is asked for. -/
  | remove (p : Principal) (tokenId : String)
  /-- A step of a login is taken. -/
  | login (s : Service) (o : Occasion) (request : LoginRequest) (current : Option Principal)
  /-- A query of another request, one that does not make or delete API tokens. -/
  | query (q : Query) (other : q.changesApiTokens = false)
  | upkeep (change : Upkeep)

namespace Deed

variable {m m' : Memory} {d : Deed}

/-- The store after a deed. -/
def after (m : Memory) : Deed → Memory
  | .generate p o wanted expiresAt description =>
    ((p.generateApiToken o wanted expiresAt description).runOn m).2
  | .remove p tokenId => ((p.removeApiToken tokenId).runOn m).2
  | .login s o request current => ((s.login o request current).runOn .empty m).2.2
  | .query q _ => (m.answer q).2
  | .upkeep change => m.maintained change

/-- What a deed does to the store. -/
inductive Does (m : Memory) : Deed → Memory → Prop where
  /-- It leaves all API tokens alone. -/
  | keeps {d : Deed} {m' : Memory} (grows : m.Grows m') (apiTokens : m'.apiTokens = m.apiTokens)
      (roles : m'.apiTokenRoles = m.apiTokenRoles) : Does m d m'
  /-- A session makes an API token. -/
  | makes {p : Principal} {o : Occasion} {wanted : Option (List String)}
      {expiresAt : Option Time} {description : String} {granted : List Role}
      (session : p.isApiToken = false)
      (chosen : grantedRoles (m.rolesOf (m.assignments.find? p.userId)) wanted = .ok granted) :
      Does m (.generate p o wanted expiresAt description)
        (m.withApiToken (p.newRecord o expiresAt description) (granted.map (·.id)))
  /-- The owner of an API token deletes it. -/
  | deletes {p : Principal} {tokenId : String} (owns : m.ownsApiToken p.userId tokenId = true) :
      Does m (.remove p tokenId) (m.withoutApiToken tokenId)

theorem Does.refl : Does m d m :=
  .keeps (.refl m) rfl rfl

/-- A login has nothing to do with API tokens. -/
theorem login_apiTokens (s : Service) (o : Occasion) (request : LoginRequest)
    (current : Option Principal) :
    ((s.login o request current).runOn .empty m).2.2.apiTokens = m.apiTokens ∧
      ((s.login o request current).runOn .empty m).2.2.apiTokenRoles = m.apiTokenRoles := by
  rcases s.login_memory .empty m request current with
    kept | ⟨userId, digest, -, taken⟩
  · rw [kept, Service.storeAfterCurrent_eq]
    exact ⟨rfl, rfl⟩
  · rw [taken, Memory.takeRecoveryCode_snd, Service.storeAfterCurrent_eq]
    exact ⟨rfl, rfl⟩

/-- What a deed does. -/
theorem does (m : Memory) (d : Deed) : Does m d (d.after m) := by
  cases d with
  | generate p o wanted expiresAt description =>
      rw [after, Principal.runOn_generateApiToken]
      cases session : p.isApiToken with
      | true => exact .refl
      | false =>
          simp only [Bool.false_eq_true, if_false]
          split
          · exact .refl
          · split
            · exact .refl
            · rename_i granted chosen
              exact .makes session chosen
  | remove p tokenId =>
      rw [after, Principal.runOn_removeApiToken]
      split
      · rename_i owns
        exact .deletes owns
      · exact .refl
  | login s o request current =>
      obtain ⟨apiTokens, roles⟩ := login_apiTokens (m := m) s o request current
      have records := Memory.sameRecords_run ((s.login o request current).run.run .empty) m
      exact .keeps records.grows apiTokens roles
  | query q other =>
      obtain ⟨apiTokens, roles⟩ := Memory.apiTokens_answer (m := m) other
      exact .keeps (Memory.sameRecords_answer m q).grows apiTokens roles
  | upkeep change =>
      obtain ⟨apiTokens, roles⟩ := Memory.apiTokens_maintained m change
      exact .keeps (Memory.grows_maintained m change) apiTokens roles

/-- No deed takes a role away. -/
theorem Does.grows (done : Does m d m') : m.Grows m' := by
  cases done with
  | keeps grows apiTokens roles => exact grows
  | makes session chosen => exact ⟨fun _ _ h => h, fun _ h => h⟩
  | deletes owns => exact ⟨fun _ _ h => h, fun _ h => h⟩

end Deed

end Gatehouse.Access

/-! ## Runs -/

namespace Gatehouse.Store.Memory

open Access (Deed)

variable {m : Memory}

/-- The store after a run of deeds. -/
def during (m : Memory) (deeds : List Deed) : Memory :=
  deeds.foldl (fun m d => d.after m) m

@[simp] theorem during_nil : m.during [] = m := rfl

@[simp] theorem during_cons (d : Deed) (deeds : List Deed) :
    m.during (d :: deeds) = (d.after m).during deeds := rfl

theorem during_append (deeds later : List Deed) :
    m.during (deeds ++ later) = (m.during deeds).during later :=
  List.foldl_append

/-- What holds at the start of a run and is kept by every deed holds at its end. -/
theorem during_induction {P : Memory → Prop} (start : P m)
    (step : ∀ m (d : Deed), P m → P (d.after m)) (deeds : List Deed) : P (m.during deeds) := by
  induction deeds generalizing m with
  | nil => exact start
  | cons d deeds ih => exact ih (step m d start)

/-- No run takes a role away. -/
theorem grows_during (m : Memory) (deeds : List Deed) : m.Grows (m.during deeds) :=
  during_induction (P := m.Grows) (.refl m) (fun m d h => h.trans (d.does m).grows) deeds

end Gatehouse.Store.Memory
