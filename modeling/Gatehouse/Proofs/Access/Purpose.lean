import Gatehouse.Proofs.Access.Requests
import Gatehouse.Proofs.Access.Success

/-!
# Purposes of tokens - Good for one thing only

All tokens are signed with the same key and read by the same verification, so what keeps them apart
is the scope that they are issued with.  It comes back from verification unchanged, and each of the
requests that take a token looks at it before anything else.

Main definition: `Token.IssuedFor`: a text that was issued for a purpose.

Main results:

- Theorem `Token.IssuedFor.verify_eq`: a token says what it was issued for, as long as it is good.
- Theorem `Service.accepted_for_own_purpose`: no request accepts a token of another purpose.
-/

namespace Gatehouse.Token

open Http (Headers)
open Store (Role User)

variable {c : Config} {scope : Scope} {claims : Claims} {text : String}

/-- The text was issued for a purpose, at a time that can be written, and says the given claims. -/
inductive IssuedFor (c : Config) : Scope → Claims → String → Prop where
  | access {now : Time} {id : String} {user : User} {roles : List Role} {requested : Nat}
      {parent : Option String} {kind : LoginKind} {withCookie : Bool} {headers headers' : Headers}
      {issued : IssuedToken} (time : IsTime now)
      (ended : (issueAccess c now id user roles requested parent kind withCookie).run headers =
        (.ok issued, headers')) :
      IssuedFor c .access (accessClaims c now id user roles requested parent kind) issued.token
  | refresh {now : Time} {id : String} {user : User} {roles : List Role} {kind : LoginKind}
      {withCookie : Bool} {headers headers' : Headers} {issued : IssuedToken} (time : IsTime now)
      (ended : (issueRefresh c now id user roles kind withCookie).run headers =
        (.ok issued, headers')) :
      IssuedFor c .refresh (refreshClaims c now id user roles kind) issued.token
  | pending {now : Time} {id : String} {user : User} {headers headers' : Headers}
      {issued : IssuedToken} (time : IsTime now)
      (ended : (issuePending c now id user).run headers = (.ok issued, headers')) :
      IssuedFor c .pending (pendingClaims c now id user) issued.token

namespace IssuedFor

/-- The purpose is the only scope of the claims. -/
theorem scopes_eq (h : IssuedFor c scope claims text) : claims.scopes = [scope] := by
  cases h <;> rfl

/-- Whatever was issued was signed. -/
theorem signed (h : IssuedFor c scope claims text) : sign c.algorithm c.key claims = .ok text := by
  cases h with
  | access time ended => exact (issueAccess_ok ended).1
  | refresh time ended => exact (issueRefresh_ok ended).1
  | pending time ended => exact (issue_ok ended).1

theorem isTimely (h : IssuedFor c scope claims text) : claims.IsTimely := by
  cases h with
  | access time ended => exact isTimely_newClaims time
  | refresh time ended => exact isTimely_newClaims time
  | pending time ended => exact isTimely_newClaims time

/-- A token says what it was issued for, as long as it is good. -/
theorem verify_eq (h : IssuedFor c scope claims text) (now : Time) :
    verify c.key now text = (checkWindow now claims).map fun _ => claims :=
  verify_sign h.signed h.isTimely

/-- Whoever finds a scope in an accepted token has found its purpose. -/
theorem eq_of_hasScope (h : IssuedFor c scope claims text) {now : Time} {accepted : Claims}
    {wanted : Scope} (verified : verify c.key now text = .ok accepted)
    (found : accepted.hasScope wanted = true) : scope = wanted := by
  obtain rfl := eq_of_verify_sign h.signed h.isTimely verified
  rw [Claims.hasScope, h.scopes_eq] at found
  simpa [eq_comm] using found

/-- A token for the second step says nothing of roles and sessions. -/
theorem bare_of_pending (h : IssuedFor c .pending claims text) :
    claims.roles = [] ∧ claims.parent? = none ∧ claims.loginKind? = none := by
  cases h
  exact ⟨rfl, rfl, rfl⟩

end IssuedFor

end Gatehouse.Token

namespace Gatehouse.Access.Service

open Http (Headers)
open Store (Query Reply)
open Token (Claims IssuedFor Scope Time)

variable {σ : Type} {s : Service}

/-- A token says what it was issued for, with its purpose for the only scope, and no request accepts
it for another purpose, whatever the store answers. -/
theorem accepted_for_own_purpose {scope : Scope} {claims : Claims} {text : String}
    (issued : IssuedFor s.config scope claims text) (answer : σ → (q : Query) → Reply q × σ)
    (state : σ) :
    claims.scopes = [scope] ∧
    (∀ now, Token.verify s.config.key now text =
      (Token.checkWindow now claims).map fun _ => claims) ∧
    (scope = .pending →
      claims.roles = [] ∧ claims.parent? = none ∧ claims.loginKind? = none) ∧
    (∀ now p, ((s.authenticate now (.signed text)).run.run answer state).1 = .ok p →
      scope = .access) ∧
    (∀ o headers requestedTtl redirect out session,
      Http.Cookie.find? headers s.config.refreshCookie = some text →
      (((s.refresh o headers requestedTtl redirect).run.run out).run answer state).1.1 =
        .ok session → scope = .refresh) ∧
    (∀ o request current code out outcome, request.credential = .secondFactor text code →
      (((s.login o request current).run.run out).run answer state).1.1 = .ok outcome →
        scope = .pending) := by
  have purpose {now : Time} {wanted : Scope} (h : s.Admits now wanted text) : scope = wanted := by
    obtain ⟨accepted, verified, found⟩ := h
    exact issued.eq_of_hasScope verified found
  refine ⟨issued.scopes_eq, issued.verify_eq, ?_, ?_, ?_, ?_⟩
  · rintro rfl
    exact issued.bare_of_pending
  · intro now p accepted
    exact purpose ((authenticateSigned_gives now text).run accepted)
  · intro o headers requestedTtl redirect out session given traded
    obtain ⟨_, accepted, -, -, -, same, verified, found, -⟩ :=
      (refresh_gives headers requestedTtl redirect).run traded
    obtain rfl := Option.some.inj (given.symm.trans same)
    exact purpose ⟨accepted, verified, found⟩
  · intro o request current code out outcome credential ended
    cases (login_gives request current).run ended with
    | pending other signed => cases credential.symm.trans other
    | established admitted signed => exact purpose (admitted text code credential)

/-- Alice's access token is accepted for access.  Her token for the second step is good at the same
time, says nothing of her roles and is not accepted for access at any time. -/
theorem alice_purposes :
    (∃ claims text, IssuedFor smallService.config .access claims text ∧
      ((smallService.authenticate 1000 (.signed text)).runOn (smallStore none)).1 =
        .ok ⟨claims, .session⟩) ∧
    ∃ claims text, IssuedFor smallService.config .pending claims text ∧
      Token.verify smallService.config.key 1000 text = .ok claims ∧ claims.roles = [] ∧
      ∀ now p, ((smallService.authenticate now (.signed text)).runOn (smallStore none)).1 ≠
        .ok p := by
  have time : Token.IsTime 1000 := by decide
  constructor
  · obtain ⟨issued, headers, ended⟩ := Token.exists_issueAccess smallService_canIssue 1000 "a"
      (alice none) [] 0 none .password .empty
    have access := IssuedFor.access time ended
    obtain ⟨-, verified, -⟩ :=
      accepted_for_own_purpose access Store.Memory.answer (smallStore none)
    refine ⟨_, issued.token, access, ?_⟩
    rw [authenticate, runOn_authenticateSigned, verified 1000]
    rfl
  · obtain ⟨text, signed⟩ := Token.exists_sign (a := smallService.config.algorithm)
      smallService_canIssue.secret
      (Token.pendingClaims smallService.config 1000 "p" (alice none))
    have ended : (Token.issuePending smallService.config 1000 "p" (alice none)).run .empty =
        (.ok ⟨text, "p", 1300⟩, .empty) := by
      rw [Token.issuePending, Token.issue, signed]
      rfl
    have pending := IssuedFor.pending time ended
    obtain ⟨-, verified, bare, only, -⟩ :=
      accepted_for_own_purpose pending Store.Memory.answer (smallStore none)
    refine ⟨_, text, pending, verified 1000, (bare rfl).1, ?_⟩
    intro now p accepted
    cases only now p accepted

end Gatehouse.Access.Service
