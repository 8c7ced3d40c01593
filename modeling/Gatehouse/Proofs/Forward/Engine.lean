import Gatehouse.Forward.Engine
import Gatehouse.Proofs.Access.Success
import Gatehouse.Proofs.Forward.Rules

/-!
# Deciding about delegated requests - Exactly by the rules

The decision about a delegated request is told from the document that the rules were compiled from,
the credential that the request presents, the records of the store and the policy.

Main definitions:

- `Engine.Admits`: who may make a request, as far as the rules go.
- `Engine.portrait`: the lines that describe who makes it, and what a policy is told of it.
- `Engine.Passes`: the policy lets a request through, with the lines of the response.

Main results:

- Theorem `Engine.identified_eq_ok_iff`: a request that no rule denies is made by whom the document
  admits.
- Theorem `Engine.decide_denied` and theorem `Engine.decide_allow_iff`: requests that a rule denies,
  and requests that no rule denies.
- Theorem `Engine.decide_by_rules`: requests are denied and let through exactly by the rules.
-/

namespace Gatehouse.Forward

open Access (Flow Principal Service)
open Http (Headers)
open Policy (Subject)
open Store (Memory Role User)
open Token (Time)

variable {e : Engine} {w : WrittenRules} {now : Time} {m : Memory} {r : Request}
  {identity : Identity} {headers : Headers}

namespace Engine

/-! ## Who makes a request -/

/-- The outcome of authentication for a request. -/
def authentication (e : Engine) (now : Time) (m : Memory) (r : Request) :
    Except Access.Error Principal :=
  ((e.service.authenticateHeaders now r.headers).runOn m).1

/-- The request presents no credential that counts: none, a wrong one or one that has expired. -/
def IsStranger (e : Engine) (now : Time) (m : Memory) (r : Request) : Prop :=
  e.authentication now m r = .error .unauthenticated ∨ e.authentication now m r = .error .expired

/-- Who may make a request that no rule of the document denies. -/
inductive Admits (e : Engine) (w : WrittenRules) (now : Time) (m : Memory) (r : Request) :
    Identity → Prop
  /-- The user whose credential it is, if there still is such a user. -/
  | user {principal : Principal} {user : User}
      (authentic : e.authentication now m r = .ok principal)
      (active : m.activeUser? principal.userId = some user) :
      Admits e w now m r (.user principal user)
  /-- A stranger whom the first matching rule that lets somebody in takes for its subject. -/
  | subject {grant : Grant} (stranger : e.IsStranger now m r)
      (granted : (w.hitsOf r).findSome? (·.grant?) = some grant) :
      Admits e w now m r (.subject grant (m.activeUser? grant.subject))
  /-- A stranger whom no rule speaks of, where no login is needed. -/
  | anonymous (stranger : e.IsStranger now m r) (unmatched : w.hitsOf r = [])
      (free : w.needsLoginFor r = false) : Admits e w now m r .anonymous

/-- The rules of an engine say what the document says that they were compiled from. -/
theorem verdict_eq (h : w.compile = .ok e.rules) : e.verdict r = heard (w.hitsOf r) :=
  WrittenRules.verdict_of_compile h r

theorem needsLogin_eq (h : w.compile = .ok e.rules) : e.needsLogin r = w.needsLoginFor r :=
  WrittenRules.needsLoginFor_of_compile h r

/-- Authentication leaves the store as it is. -/
theorem runOn_authentication :
    (e.service.authenticateHeaders now r.headers).runOn m = (e.authentication now m r, m) :=
  Prod.ext rfl (Service.authenticateHeaders_keeps (id : Memory → Memory) now r.headers m)

/-! ## What is said of them -/

/-- The lines that describe an identity, and what a policy is told of it. -/
def portrait (e : Engine) (m : Memory) (identity : Identity) : Headers × Option Subject :=
  ((e.describe identity).runOn m).1.toOption.getD (.empty, none)

theorem permissionsFor_reads (roles : List Role) : (e.permissionsFor roles).Reads :=
  Flow.Reads.bind (Flow.reads_mapM (fun _ => Flow.reads_fetch fun _ => ⟨_, rfl⟩) roles) fun _ =>
    Flow.reads_pure _

theorem userLines_reads (headers : Headers) (user : User) : (e.userLines headers user).Reads :=
  Flow.Reads.bind (Flow.reads_lookup? fun _ => ⟨_, rfl⟩) fun _ => Flow.reads_pure _

theorem roles_reads (p : Principal) : p.roles.Reads := by
  unfold Principal.roles
  cases p.source with
  | session => exact Flow.reads_fetch fun _ => ⟨_, rfl⟩
  | apiToken id roles => exact Flow.reads_pure _

/-- Everybody can be described. -/
theorem describe_reads (identity : Identity) : (e.describe identity).Reads := by
  cases identity with
  | anonymous => exact Flow.reads_pure _
  | user principal user =>
      exact (roles_reads principal).bind fun roles => (userLines_reads _ user).bind fun headers =>
        (permissionsFor_reads roles).bind fun permissions => Flow.reads_pure _
  | subject grant user =>
      refine (permissionsFor_reads _).bind fun permissions => ?_
      cases user with
      | none => exact Flow.reads_pure _
      | some user => exact (userLines_reads _ user).bind fun headers => Flow.reads_pure _

theorem runOn_describe (identity : Identity) :
    (e.describe identity).runOn m = (.ok (e.portrait m identity), m) := by
  obtain ⟨described, h⟩ := describe_reads (e := e) identity m
  rw [portrait, h]
  rfl

/-! ## Finding out who makes a request -/

theorem run_activeUser? (userId : String) :
    (Flow.activeUser? userId).run.run Memory.answer m = (.ok (m.activeUser? userId), m) :=
  Flow.runOn_activeUser? userId

theorem run_granted (grant : Grant) :
    (identify.granted grant).run Memory.answer m =
      (.ok (.subject grant (m.activeUser? grant.subject)), m) := by
  have unfolded : (identify.granted grant).run Memory.answer m = _ :=
    Store.Action.run_bind Memory.answer (Flow.activeUser? grant.subject).run _ m
  rw [unfolded, run_activeUser?]
  rfl

/-- Whose request it is, by the outcome of authentication and what the rules say. -/
def identified (e : Engine) (m : Memory) (r : Request) :
    Except Access.Error Principal → Verdict → Except Decision Identity
  | .ok principal, _ =>
    match m.activeUser? principal.userId with
    | some user => .ok (.user principal user)
    | none => .error (denial r 403 .empty)
  | .error .unauthenticated, .allow grant => .ok (.subject grant (m.activeUser? grant.subject))
  | .error .expired, .allow grant => .ok (.subject grant (m.activeUser? grant.subject))
  | .error .expired, _ =>
    if e.needsLogin r then .error (redirection r e.service.config.refreshUrl) else .ok .anonymous
  | .error .unauthenticated, _ =>
    if e.needsLogin r then .error (redirection r e.service.config.loginUrl) else .ok .anonymous
  | .error _, _ => .error .error

/-- Finding out who makes a request leaves the store as it is. -/
theorem run_identify :
    (e.identify now r).run Memory.answer m =
      (e.identified m r (e.authentication now m r) (e.verdict r), m) := by
  have unfolded : (e.identify now r).run Memory.answer m = _ :=
    Store.Action.run_bind Memory.answer (e.service.authenticateHeaders now r.headers).run _ m
  have asked : (e.service.authenticateHeaders now r.headers).run.run Memory.answer m = _ :=
    runOn_authentication
  rw [unfolded, asked]
  generalize e.authentication now m r = outcome, e.verdict r = verdict
  cases outcome with
  | ok principal =>
      refine (Store.Action.run_bind Memory.answer (Flow.activeUser? principal.userId).run _ m).trans ?_
      rw [run_activeUser?]
      simp only [identified]
      cases m.activeUser? principal.userId <;> rfl
  | error failure =>
      cases failure with
      | unauthenticated | expired =>
          cases verdict with
          | allow grant => exact run_granted grant
          | deny | silent => rfl
      | permissionDenied | notFound | invalidArgument | internal => cases verdict <;> rfl

/-- Whoever is identified is the user of the credential, the subject of a rule, or nobody. -/
theorem cases_of_identified {outcome : Except Access.Error Principal} {verdict : Verdict}
    (h : e.identified m r outcome verdict = .ok identity) :
    (∃ principal user, outcome = .ok principal ∧ m.activeUser? principal.userId = some user ∧
      identity = .user principal user) ∨
    ((outcome = .error .unauthenticated ∨ outcome = .error .expired) ∧
      ((∃ grant, verdict = .allow grant ∧
          identity = .subject grant (m.activeUser? grant.subject)) ∨
        ((verdict = .silent ∨ verdict = .deny) ∧ e.needsLogin r = false ∧
          identity = .anonymous))) := by
  cases outcome with
  | ok principal =>
      simp only [identified] at h
      cases active : m.activeUser? principal.userId with
      | none =>
          rw [active] at h
          cases h
      | some user =>
          rw [active] at h
          exact .inl ⟨principal, user, rfl, active, (Except.ok.inj h).symm⟩
  | error failure =>
      right
      cases failure with
      | unauthenticated | expired =>
          refine ⟨by simp, ?_⟩
          cases verdict with
          | allow grant => exact .inl ⟨grant, rfl, (Except.ok.inj h).symm⟩
          | deny | silent =>
              simp only [identified] at h
              split at h
              · cases h
              · rename_i free
                exact .inr ⟨by simp, by simpa using free, (Except.ok.inj h).symm⟩
      | permissionDenied | notFound | invalidArgument | internal => cases verdict <;> cases h

/-- Where no rule denies, a request is made by whom the document admits. -/
theorem identified_eq_ok_iff (h : w.compile = .ok e.rules)
    (quiet : ¬∃ rule ∈ w.hitsOf r, rule.deny = true) :
    e.identified m r (e.authentication now m r) (e.verdict r) = .ok identity ↔
      e.Admits w now m r identity := by
  constructor
  · intro result
    rw [verdict_eq h] at result
    rcases cases_of_identified result with ⟨principal, user, authentic, active, rfl⟩ |
      ⟨stranger, ⟨grant, allowed, rfl⟩ | ⟨verdict, free, rfl⟩⟩
    · exact .user authentic active
    · exact .subject stranger (heard_eq_allow_iff.1 allowed).2
    · rw [needsLogin_eq h] at free
      rcases verdict with silent | denied
      · exact .anonymous stranger (heard_eq_silent_iff.1 silent) free
      · exact absurd (heard_eq_deny_iff.1 denied) quiet
  · intro admitted
    cases admitted with
    | user authentic active =>
        rw [authentic]
        simp only [identified, active]
    | subject stranger granted =>
        have allowed := heard_eq_allow_iff.2 ⟨quiet, granted⟩
        rw [verdict_eq h, allowed]
        rcases stranger with failed | failed <;> rw [failed] <;> rfl
    | anonymous stranger unmatched free =>
        have silent := heard_eq_silent_iff.2 unmatched
        rw [verdict_eq h, silent]
        rcases stranger with failed | failed <;> rw [failed] <;>
          simp only [identified, needsLogin_eq h, free] <;> rfl

/-- Whoever is turned away without a policy is not let through. -/
theorem identified_error_ne_allow {outcome : Except Access.Error Principal} {verdict : Verdict}
    {decision : Decision} (h : e.identified m r outcome verdict = .error decision) :
    decision ≠ .allow headers := by
  have redirected : ∀ template, redirection r template ≠ .allow headers := by
    intro template
    simp only [redirection]
    split
    · exact nofun
    · exact nofun
  cases outcome with
  | ok principal =>
      simp only [identified] at h
      split at h
      · cases h
      · cases h
        exact nofun
  | error failure =>
      cases failure with
      | unauthenticated | expired =>
          cases verdict with
          | allow grant => cases h
          | deny | silent =>
              simp only [identified] at h
              split at h
              · cases h
                exact redirected _
              · cases h
      | permissionDenied | notFound | invalidArgument | internal =>
          cases verdict <;> cases h <;> exact nofun

/-! ## Deciding -/

/-- The policy lets a request through, with the given lines in the response: there is none, it has
no opinion, or it allows the request. -/
def Passes (e : Engine) (r : Request) (portrait : Headers × Option Subject)
    (headers : Headers) : Prop :=
  match e.policy with
  | none => headers = portrait.1
  | some policy =>
    (policy (policyInput r portrait.2) = .ok none ∧ headers = portrait.1) ∨
      ∃ answer, policy (policyInput r portrait.2) = .ok (some answer) ∧ answer.allow = true ∧
        headers = portrait.1.extend answer.lines

/-- A policy lets a request through when it has no opinion or allows it. -/
theorem afterPolicy_eq_allow_iff {lines : Headers}
    {reply : Except Policy.Failure (Option Policy.Answer)} :
    afterPolicy r lines reply = .allow headers ↔
      (reply = .ok none ∧ headers = lines) ∨
        ∃ answer, reply = .ok (some answer) ∧ answer.allow = true ∧
          headers = lines.extend answer.lines := by
  cases reply with
  | error failure => simp [afterPolicy]
  | ok opinion =>
      cases opinion with
      | none => simp [afterPolicy, @eq_comm Headers headers]
      | some answer =>
          cases allows : answer.allow with
          | true => simp [afterPolicy, allows, @eq_comm Headers headers]
          | false => simp [afterPolicy, allows, denial]

/-- The policy has the last word. -/
theorem applyPolicy_eq_allow_iff {portrait : Headers × Option Subject} :
    (e.applyPolicy r portrait.1 portrait.2).decision = .allow headers ↔
      e.Passes r portrait headers := by
  unfold applyPolicy Passes
  cases e.policy with
  | none => exact ⟨fun h => (Decision.allow.inj h).symm, fun h => congrArg Decision.allow h.symm⟩
  | some policy => exact afterPolicy_eq_allow_iff

/-- Deciding about a request that no rule denies leaves the store as it is. -/
theorem run_decideUndenied :
    (e.decideUndenied now r).run Memory.answer m =
      (match e.identified m r (e.authentication now m r) (e.verdict r) with
        | .error decision => .plain decision
        | .ok identity =>
          e.applyPolicy r (e.portrait m identity).1 (e.portrait m identity).2, m) := by
  have unfolded : (e.decideUndenied now r).run Memory.answer m = _ :=
    Store.Action.run_bind Memory.answer (e.identify now r) _ m
  rw [unfolded, run_identify]
  cases e.identified m r (e.authentication now m r) (e.verdict r) with
  | error decision => rfl
  | ok identity =>
      have described : (e.describe identity).run.run Memory.answer m = _ := runOn_describe identity
      refine (Store.Action.run_bind Memory.answer (e.describe identity).run _ m).trans ?_
      rw [described]
      rfl

/-- A policy is told of the subject of the rule that let a stranger in. -/
theorem portrait_subject {grant : Grant} {user : Option User}
    (known : m.activeUser? grant.subject = user) :
    (e.portrait m (.subject grant user)).2.map (·.id) = some grant.subject := by
  have described := runOn_describe (e := e) (m := m) (.subject grant user)
  generalize e.portrait m (.subject grant user) = portrait at described
  obtain ⟨permissions, m₁, -, h₁⟩ := Flow.exists_of_bind described
  cases user with
  | none =>
      cases h₁
      rfl
  | some user =>
      obtain ⟨headers, m₂, -, h₂⟩ := Flow.exists_of_bind h₁
      obtain ⟨record, rfl, same, -, -⟩ := Memory.exists_of_activeUser? known
      cases h₂
      exact congrArg some same

/-! ## The decision -/

/-- A request that a rule denies is denied, whoever makes it and whatever the policy would say. -/
theorem decide_denied (h : w.compile = .ok e.rules) (method : r.method ≠ "OPTIONS")
    (denied : ∃ rule ∈ w.hitsOf r, rule.deny = true) :
    ((e.decide now r).run Memory.answer m).1 = .plain (denial r 403 .empty) := by
  have verdict : e.verdict r = .deny := by rw [verdict_eq h, heard_eq_deny_iff.2 denied]
  rw [decide, if_neg (by simpa using method), if_pos verdict]
  rfl

/-- A request that no rule denies is let through exactly when somebody makes it whom the rules admit
and the policy lets it pass. -/
theorem decide_allow_iff (h : w.compile = .ok e.rules) (method : r.method ≠ "OPTIONS")
    (quiet : ¬∃ rule ∈ w.hitsOf r, rule.deny = true) :
    ((e.decide now r).run Memory.answer m).1.decision = .allow headers ↔
      ∃ identity, e.Admits w now m r identity ∧ e.Passes r (e.portrait m identity) headers := by
  have verdict : e.verdict r ≠ .deny := by
    rw [verdict_eq h]
    exact fun denied => quiet (heard_eq_deny_iff.1 denied)
  rw [decide, if_neg (by simpa using method), if_neg verdict, run_decideUndenied]
  cases result : e.identified m r (e.authentication now m r) (e.verdict r) with
  | error decision =>
      constructor
      · intro allowed
        exact absurd allowed (identified_error_ne_allow result)
      · rintro ⟨identity, admitted, -⟩
        rw [(identified_eq_ok_iff h quiet).2 admitted] at result
        cases result
  | ok identity =>
      constructor
      · intro allowed
        exact ⟨identity, (identified_eq_ok_iff h quiet).1 result,
          applyPolicy_eq_allow_iff.1 allowed⟩
      · rintro ⟨admitted, hadmitted, passes⟩
        rw [(identified_eq_ok_iff h quiet).2 hadmitted] at result
        cases result
        exact applyPolicy_eq_allow_iff.2 passes

/-- A request is denied when a rule denies it, and otherwise let through exactly when it is made by
somebody whom the rules admit and the policy lets it pass.  A policy is told of the subject of the
rule that let a stranger in. -/
theorem decide_by_rules (h : w.compile = .ok e.rules) (method : r.method ≠ "OPTIONS") :
    ((∃ rule ∈ w.hitsOf r, rule.deny = true) →
      ((e.decide now r).run Memory.answer m).1 = .plain (denial r 403 .empty)) ∧
    ((¬∃ rule ∈ w.hitsOf r, rule.deny = true) →
      ∀ headers, ((e.decide now r).run Memory.answer m).1.decision = .allow headers ↔
        ∃ identity, e.Admits w now m r identity ∧ e.Passes r (e.portrait m identity) headers) ∧
    (∀ grant user, e.Admits w now m r (.subject grant user) →
      (e.portrait m (.subject grant user)).2.map (·.id) = some grant.subject) := by
  refine ⟨?_, ?_, ?_⟩
  · intro denied
    exact decide_denied h method denied
  · intro quiet headers
    exact decide_allow_iff h method quiet
  · intro grant user admitted
    cases admitted
    exact portrait_subject rfl

/-- The pages of a house are read by a robot with a bearer token, from outside of one network. -/
def houseRules : WrittenRules :=
  ⟨true, [⟨"^http://house/", [" get "], none,
    [⟨none, none, some "open", false, some "robot", ["reader"]⟩,
      ⟨none, some "10.0.0.0/8", none, true, none, []⟩]⟩]⟩

/-- An engine with these rules and a policy that has no opinion. -/
def houseEngine : Engine :=
  ⟨Access.smallService, houseRules.compile.toOption.getD .empty, .flat, some fun _ => .ok none, ⟨[]⟩⟩

/-- A request of the robot. -/
def robotRequest (client : Net.Address) : Request :=
  ⟨"GET", "http", "house", "/page", "", some client,
    ⟨[("authorization", utf8 "Bearer open")]⟩⟩

/-- The robot is denied the page from within the network, and let through from 11.0.0.1. -/
theorem houseEngine_robot :
    houseRules.compile = .ok houseEngine.rules ∧
    (robotRequest (.v4 0x0A000001)).method ≠ "OPTIONS" ∧
    (robotRequest (.v4 0x0B000001)).method ≠ "OPTIONS" ∧
    ((houseEngine.decide 1000 (robotRequest (.v4 0x0A000001))).run Memory.answer .empty).1 =
      .plain (denial (robotRequest (.v4 0x0A000001)) 403 .empty) ∧
    ∃ headers, ((houseEngine.decide 1000 (robotRequest (.v4 0x0B000001))).run Memory.answer
      .empty).1.decision = .allow headers := by
  have compiled : houseRules.compile = .ok houseEngine.rules := by rfl
  have inside : ∃ rule ∈ houseRules.hitsOf (robotRequest (.v4 0x0A000001)), rule.deny = true := by
    decide +kernel
  have outside :
      ¬∃ rule ∈ houseRules.hitsOf (robotRequest (.v4 0x0B000001)), rule.deny = true := by
    decide +kernel
  have granted : (houseRules.hitsOf (robotRequest (.v4 0x0B000001))).findSome? (·.grant?) =
      some ⟨"robot", ["reader"]⟩ := by
    decide +kernel
  have stranger :
      houseEngine.IsStranger 1000 Memory.empty (robotRequest (.v4 0x0B000001)) := .inl rfl
  exact ⟨compiled, by decide, by decide, (decide_by_rules compiled (by decide)).1 inside, _,
    ((decide_by_rules compiled (by decide)).2.1 outside _).2
      ⟨_, .subject stranger granted, .inl ⟨rfl, rfl⟩⟩⟩

end Engine

end Gatehouse.Forward
