import Gatehouse.Forward.Engine
import Gatehouse.Proofs.Access.Failures

/-!
# Deciding about delegated requests - When the store fails

Somebody who presents nothing, or nothing good, may still be let in by a rule, or where no login is
needed.  A credential that cannot be checked because the store fails is neither: no decision is made
then.

Main results:

- Theorem `Engine.identify_failsTo`: nobody is identified when the store fails.
- Theorem `Engine.decide_failsTo`: there is no decision when the store fails.
-/

namespace Gatehouse.Forward

open Access (Flow Principal)
open Http (Headers)
open Store (Action Asking Role User)
open Token (Time)

namespace Engine

variable (e : Engine) {now : Time} {r : Request}

theorem permissionsFor_failsClosed (roles : List Role) : (e.permissionsFor roles).FailsClosed := by
  refine Flow.FailsClosed.bind (Flow.failsClosed_mapM (fun role => ?_) roles) fun requested =>
    Flow.failsClosed_pure _
  exact Flow.failsClosed_fetch (Asking.reports_send _)

theorem userLines_failsClosed (headers : Headers) (user : User) :
    (e.userLines headers user).FailsClosed :=
  (Flow.failsClosed_lookup? (Asking.reports_send _)).bind fun _ => Flow.failsClosed_pure _

/-- An identity is described in full or not at all. -/
theorem describe_failsClosed (identity : Identity) : (e.describe identity).FailsClosed := by
  cases identity with
  | anonymous => exact Flow.failsClosed_pure _
  | user principal user =>
      exact (Principal.roles_failsClosed principal).bind fun _ =>
        (userLines_failsClosed e _ _).bind fun _ =>
          (permissionsFor_failsClosed e _).bind fun _ => Flow.failsClosed_pure _
  | subject grant user =>
      refine Flow.FailsClosed.bind (permissionsFor_failsClosed e _) fun permissions => ?_
      cases user with
      | some user => exact (userLines_failsClosed e _ _).bind fun _ => Flow.failsClosed_pure _
      | none => exact Flow.failsClosed_pure _

theorem granted_failsTo (grant : Grant) :
    (identify.granted grant).FailsTo fun x => x = .error .error := by
  refine Action.FailsTo.bind (Flow.activeUser?_failsClosed _).ends ?_ ?_
  · rintro found ⟨detail, rfl⟩
    exact ⟨.error .error, rfl, rfl⟩
  · intro found
    cases found <;> exact Action.failsTo_done _

/-- Nobody is identified when the store fails, not even where nobody has to log in or where a rule
lets somebody in. -/
theorem identify_failsTo : (e.identify now r).FailsTo fun x => x = .error .error := by
  refine Action.FailsTo.bind
    (Access.Service.authenticateHeaders_failsClosed now r.headers).ends ?_ ?_
  · rintro outcome ⟨detail, rfl⟩
    exact ⟨.error .error, by cases e.verdict r <;> rfl, rfl⟩
  · intro outcome
    cases outcome with
    | ok principal =>
        refine Action.FailsTo.bind (Flow.activeUser?_failsClosed principal.userId).ends ?_ ?_
        · rintro found ⟨detail, rfl⟩
          exact ⟨.error .error, rfl, rfl⟩
        · rintro (_ | _ | _) <;> exact Action.failsTo_done _
    | error refusal =>
        cases refusal with
        | unauthenticated | expired =>
            cases e.verdict r with
            | allow grant => exact granted_failsTo grant
            | deny | silent => exact Action.failsTo_done _
        | permissionDenied | notFound | invalidArgument | internal =>
            cases e.verdict r <;> exact Action.failsTo_done _

theorem decideUndenied_failsTo :
    (e.decideUndenied now r).FailsTo fun ruling => ruling.decision = .error := by
  refine Action.FailsTo.bind (identify_failsTo e) ?_ ?_
  · rintro identified rfl
    exact ⟨.plain .error, rfl, rfl⟩
  · intro identified
    cases identified with
    | error decision => exact Action.failsTo_done _
    | ok identity =>
        refine Action.FailsTo.bind (describe_failsClosed e identity).ends ?_ ?_
        · rintro described ⟨detail, rfl⟩
          exact ⟨.plain .error, rfl, rfl⟩
        · intro described
          cases described <;> exact Action.failsTo_done _

/-- A request that the store is asked about is neither let through nor sent elsewhere nor denied
when the store fails. -/
theorem decide_failsTo : (e.decide now r).FailsTo fun ruling => ruling.decision = .error := by
  unfold decide
  split
  · exact Action.failsTo_done _
  · split
    · exact Action.failsTo_done _
    · exact decideUndenied_failsTo e

end Engine

end Gatehouse.Forward
