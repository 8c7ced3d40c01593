import Gatehouse.Proofs.Access.Success

/-!
# Login - Credentials that pass

A step of a login checks a credential before it does anything else for its user.  The check ends well
for exactly the credentials that pass, changes the store only for a recovery code, and tells all the
others alike that they are refused.

Main definitions:

- `Service.credentialUser` and `Service.conclude`: the two parts of a step of a login.
- `Awaits`: a token of the password step is good for the second step of a user.
- `Passes`: whom a credential lets pass, and the store after the check.

Main results:

- Theorem `Service.login_eq`: a login checks the credential and then concludes.
- Theorem `Service.runOn_credentialUser_of_passes` and theorem
  `Service.runOn_credentialUser_of_refused`: how the check ends.
- Theorem `passes_password_iff`: which passwords pass.
-/

namespace Gatehouse.Access

open Http (Headers)
open Store (Asking Memory User)
open Token (Claims Time)

variable {s : Service} {m m' : Memory} {o : Occasion} {now : Time} {user : User}

/-- The token of a password step is good for the second step of a user with a secret. -/
structure Awaits (s : Service) (now : Time) (m : Memory) (pendingToken : String) (user : User)
    (secret : String) : Prop where
  pending : ∃ claims, Token.verify s.config.key now pendingToken = .ok claims ∧
    claims.hasScope .pending = true ∧ m.activeUser? claims.subject = some user
  enrolled : user.totpSecret = some secret
  given : secret ≠ ""

/-- Whom a credential lets pass, and the store after it was checked. -/
inductive Passes (s : Service) (now : Time) (m : Memory) :
    LoginCredential → User → Memory → Prop where
  /-- The password fits. -/
  | password {name password : String} {user : User}
      (found : m.loginUser? s.config.loginByEmail (Text.trim name) = some user)
      (fits : Credential.passwordMatches user.passwordHash password = true) :
      Passes s now m (.password name password) user m
  /-- The one-time code is right. -/
  | oneTimeCode {pendingToken code secret : String} {user : User}
      (awaited : Awaits s now m pendingToken user secret)
      (accepted : s.acceptsCode secret now code = true) :
      Passes s now m (.secondFactor pendingToken code) user m
  /-- The code is no one-time code, and the user has it as a recovery code. -/
  | recoveryCode {pendingToken code secret digest : String} {user : User}
      (awaited : Awaits s now m pendingToken user secret)
      (refused : s.acceptsCode secret now code = false)
      (read : Credential.RecoveryCode.digest? code = some digest)
      (left : digest ∈ m.recoveryDigests user.id) :
      Passes s now m (.secondFactor pendingToken code) user (m.takeRecoveryCode user.id digest).2

/-- Which passwords pass. -/
theorem passes_password_iff {name password : String} :
    (∃ user m', Passes s now m (.password name password) user m') ↔
      ∃ user, m.loginUser? s.config.loginByEmail (Text.trim name) = some user ∧
        Credential.passwordMatches user.passwordHash password = true := by
  constructor
  · rintro ⟨user, m', passes⟩
    cases passes with
    | password found fits => exact ⟨user, found, fits⟩
  · rintro ⟨user, found, fits⟩
    exact ⟨user, m, .password found fits⟩

namespace Service

/-! ## The parts of a login -/

/-- The user whom a credential lets pass. -/
def credentialUser (s : Service) (now : Time) : LoginCredential → Flow User
  | .password name password => s.passwordUser name password
  | .secondFactor pendingToken code => s.secondFactorUser now pendingToken code

/-- What a step of a login does for a user whose credential passed. -/
def conclude (s : Service) (o : Occasion) (request : LoginRequest) (user : User) :
    CookieFlow LoginOutcome :=
  match request.credential with
  | .password .. => do
    if user.hasSecondFactor then
      let pendingToken ← issuing (Token.issuePending s.config o.now o.pendingId user)
      return .secondFactorRequired pendingToken
    else
      let session ← s.establish o request user .password
      return .established session
  | .secondFactor .. => do
    let session ← s.establish o request user .mfa
    return .established session

/-- A login ends the session that the request arrives with, checks the credential and concludes. -/
theorem login_eq (request : LoginRequest) (current : Option Principal) :
    s.login o request current = (do
      s.endCurrent current
      let user ← Flow.withCookies (s.credentialUser o.now request.credential)
      s.conclude o request user) := by
  unfold login conclude
  cases request.credential <;> rfl

/-! ## The check -/

/-- Whoever passes is the outcome of the check. -/
theorem runOn_credentialUser_of_passes {credential : LoginCredential}
    (passes : Passes s now m credential user m') :
    (s.credentialUser now credential).runOn m = (.ok user, m') := by
  cases passes with
  | password found fits => exact runOn_passwordUser found fits
  | oneTimeCode awaited accepted =>
      obtain ⟨⟨claims, verified, scope, active⟩, enrolled, given⟩ := awaited
      exact runOn_secondFactorUser verified scope active enrolled given accepted
  | recoveryCode awaited refused read left =>
      obtain ⟨⟨claims, verified, scope, active⟩, enrolled, given⟩ := awaited
      exact runOn_secondFactorUser_of_recoveryCode verified scope active enrolled given refused
        read left

/-- A password that does not fit is refused. -/
theorem runOn_passwordUser_of_refused {name password : String}
    (refused : ∀ user, m.loginUser? s.config.loginByEmail (Text.trim name) = some user →
      Credential.passwordMatches user.passwordHash password = false) :
    (s.passwordUser name password).runOn m = (.error .unauthenticated, m) := by
  rw [passwordUser, Flow.runOn_bind_ok (runOn_loginUser? name)]
  cases found : m.loginUser? s.config.loginByEmail (Text.trim name) with
  | none => rfl
  | some user =>
      simp only [refused user found, Bool.false_eq_true, if_false]
      rfl

/-- A recovery code that the user does not have is not taken. -/
theorem runOn_takeRecoveryCode_of_absent {userId code : String}
    (absent : ∀ digest, Credential.RecoveryCode.digest? code = some digest →
      digest ∉ m.recoveryDigests userId) :
    (takeRecoveryCode userId code).runOn m = (.ok false, m) := by
  unfold takeRecoveryCode
  cases read : Credential.RecoveryCode.digest? code with
  | none => rfl
  | some digest =>
      have kept := Memory.takeRecoveryCode_of_notMem (absent digest read)
      exact Flow.runOn_fetch (congrArg (fun r => (Except.ok r.1, r.2)) kept)

/-- A second step with a token that is good for nobody or a code that is not right is refused. -/
theorem runOn_secondFactorUser_of_refused {pendingToken code : String}
    (refused : ∀ user m', ¬Passes s now m (.secondFactor pendingToken code) user m') :
    (s.secondFactorUser now pendingToken code).runOn m = (.error .unauthenticated, m) := by
  by_cases awaited : ∃ user secret, Awaits s now m pendingToken user secret
  · obtain ⟨user, secret, awaited⟩ := awaited
    obtain ⟨⟨claims, verified, scope, active⟩, enrolled, given⟩ := id awaited
    have wrong : s.acceptsCode secret now code = false := by
      cases accepted : s.acceptsCode secret now code with
      | false => rfl
      | true => exact absurd (.oneTimeCode awaited accepted) (refused user m)
    have absent := runOn_takeRecoveryCode_of_absent fun digest read left =>
      refused user _ (.recoveryCode awaited wrong read left)
    rw [runOn_secondFactorUser_eq code verified scope active enrolled given, wrong,
      if_neg Bool.false_ne_true, Flow.runOn_bind_ok absent]
    rfl
  · unfold secondFactorUser
    cases verified : Token.verify s.config.key now pendingToken with
    | error e => rfl
    | ok claims =>
        simp only
        cases scope : claims.hasScope .pending with
        | false => rfl
        | true =>
            simp only [Bool.not_true, Bool.false_eq_true, if_false]
            rw [Flow.runOn_bind, Flow.runOn_activeUser]
            cases active : m.activeUser? claims.subject with
            | none => rfl
            | some user =>
                simp only
                cases enrolled : user.totpSecret.filter (!·.isEmpty) with
                | none => rfl
                | some secret =>
                    obtain ⟨enrolled, given⟩ := Option.filter_eq_some_iff.1 enrolled
                    exact absurd ⟨user, secret, ⟨claims, verified, scope, active⟩, enrolled,
                      by simpa using given⟩ awaited

/-- All others are refused alike, and the store is as it was. -/
theorem runOn_credentialUser_of_refused {credential : LoginCredential}
    (refused : ∀ user m', ¬Passes s now m credential user m') :
    (s.credentialUser now credential).runOn m = (.error .unauthenticated, m) := by
  cases credential with
  | password name password =>
      refine runOn_passwordUser_of_refused fun user found => ?_
      cases fits : Credential.passwordMatches user.passwordHash password with
      | false => rfl
      | true => exact absurd (.password found fits) (refused user m)
  | secondFactor pendingToken code => exact runOn_secondFactorUser_of_refused refused

end Service

end Gatehouse.Access
