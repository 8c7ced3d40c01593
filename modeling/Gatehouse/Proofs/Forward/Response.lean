import Gatehouse.Forward.Engine
import Gatehouse.Proofs.Store.Interference

/-!
# Responses to delegated requests - Which of them tell of success

A proxy lets a request through when the status of the response tells of success.  All denials of the
engine itself have the status 403; the status of a denial by the policy is the one that the policy
names, as long as it can stand in a response.

Main definitions:

- `Ruling.Follows`: how a ruling can come about.
- `Engine.TurnedAway`: what is decided about somebody whom the engine itself turns away.

Main results:

- Theorem `Decision.isSuccess_response_iff`: which decisions make a response that tells of success.
- Theorem `Engine.identify_turnsAway`: there are three ways to be turned away by the engine itself.
- Theorem `Engine.decide_follows`: every decision is the engine's own or what follows from the
  opinion of the policy.
- Theorem `Engine.isSuccess_decide_iff`: which delegated requests are answered with success.
-/

namespace Gatehouse.Forward

open Access (Flow)
open Http (Headers)
open Policy (Subject)
open Store (Action Query Reply)
open Token (Time)

variable {σ : Type} {answer : σ → (q : Query) → Reply q × σ} {e : Engine} {now : Time}
  {r : Request}

theorem isSuccess_iff (response : Http.Response) :
    response.isSuccess = true ↔ 200 ≤ response.status ∧ response.status < 300 := by
  simp [Http.Response.isSuccess]

/-- A response tells of success when the request is allowed, or denied with such a status. -/
theorem Decision.isSuccess_response_iff (d : Decision) :
    d.response.isSuccess = true ↔ (∃ headers, d = .allow headers) ∨
      ∃ status headers, d = .deny status headers ∧ 200 ≤ status ∧ status < 300 := by
  rw [isSuccess_iff]
  cases d with
  | allow headers => simp [Decision.response, Http.Response.empty]
  | redirect location html cors =>
      cases html with
      | true =>
          simp only [Decision.response]
          cases Http.fieldValue? (utf8 location) <;> simp [Http.Response.empty, Http.Response.text]
      | false => simp [Decision.response, Http.Response.json]
  | deny status headers => simp [Decision.response, Http.Response.text]
  | error => simp [Decision.response, Http.Response.empty]

/-- A decision of the engine itself: where it is a denial, the status is 403. -/
def Decision.IsPlain (d : Decision) : Prop :=
  ∀ status headers, d = .deny status headers → status = 403

theorem denial_isPlain (r : Request) (headers : Headers) : (denial r 403 headers).IsPlain := by
  rintro status headers' ⟨⟩
  rfl

theorem redirection_isPlain (r : Request) (template : String) :
    (redirection r template).IsPlain := by
  intro status headers
  simp only [redirection]
  split
  · exact denial_isPlain r .empty status headers
  · exact nofun

/-- A ruling is the engine's own, or it is what follows from the opinion of the policy. -/
inductive Ruling.Follows (e : Engine) (r : Request) : Ruling → Prop where
  | plain {d : Decision} (own : d.IsPlain) : Follows e r (.plain d)
  | policy {policy : Policy.Input → Except Policy.Failure (Option Policy.Answer)}
      (input : Policy.Input) (headers : Headers) (present : e.policy = some policy) :
      Follows e r ⟨Engine.afterPolicy r headers (policy input), some input⟩

namespace Engine

/-! ## How decisions come about -/

/-- What the engine decides about somebody whom it turns away. -/
inductive TurnedAway (e : Engine) (r : Request) : Decision → Prop where
  | barred : TurnedAway e r (denial r 403 .empty)
  | failed : TurnedAway e r .error
  /-- Somebody without a token that counts is sent to the page for it. -/
  | sent {template : String} (page : template = e.service.config.loginUrl ∨
      template = e.service.config.refreshUrl) : TurnedAway e r (redirection r template)

theorem TurnedAway.isPlain {d : Decision} (h : e.TurnedAway r d) : d.IsPlain := by
  cases h with
  | barred => exact denial_isPlain r .empty
  | failed => exact nofun
  | sent page => exact redirection_isPlain r _

/-- There are three ways to be turned away before the policy is asked. -/
theorem identify_turnsAway :
    (e.identify now r).Ends answer fun _ outcome => ∀ d, outcome = .error d → e.TurnedAway r d := by
  have granted (grant : Grant) :
      (identify.granted grant).Ends answer fun _ outcome =>
        ∀ d, outcome = .error d → e.TurnedAway r d := by
    refine Action.Ends.bind (P := fun _ _ => True) (Action.ends_of_forall _ fun _ _ => trivial) ?_
    rintro - found -
    cases found with
    | ok user => exact nofun
    | error failure =>
        rintro d ⟨⟩
        exact .failed
  refine Action.Ends.bind (P := fun _ _ => True) (Action.ends_of_forall _ fun _ _ => trivial) ?_
  rintro - outcome -
  have strangers {template : String} (page : template = e.service.config.loginUrl ∨
      template = e.service.config.refreshUrl) :
      ∀ d, (if e.needsLogin r then .error (redirection r template) else .ok .anonymous :
        Except Decision Identity) = .error d → e.TurnedAway r d := by
    intro d turned
    split at turned
    · cases turned
      exact .sent page
    · cases turned
  cases outcome with
  | ok principal =>
      refine Action.Ends.bind (P := fun _ _ => True) (Action.ends_of_forall _ fun _ _ => trivial) ?_
      rintro - found -
      cases found with
      | ok user? =>
          cases user? with
          | some user => exact nofun
          | none =>
              rintro d ⟨⟩
              exact .barred
      | error failure =>
          rintro d ⟨⟩
          exact .failed
  | error failure =>
      cases failure with
      | unauthenticated =>
          cases e.verdict r with
          | allow grant => exact (granted grant).mono fun _ _ h => h
          | deny | silent => exact strangers (.inl rfl)
      | expired =>
          cases e.verdict r with
          | allow grant => exact (granted grant).mono fun _ _ h => h
          | deny | silent => exact strangers (.inr rfl)
      | permissionDenied | notFound | invalidArgument | internal =>
          cases e.verdict r <;>
            · rintro d ⟨⟩
              exact .failed

/-- The policy has the last word where there is one. -/
theorem applyPolicy_follows (headers : Headers) (subject : Option Subject) :
    (e.applyPolicy r headers subject).Follows e r := by
  unfold applyPolicy
  split
  · exact .plain nofun
  · exact .policy _ _ ‹_›

/-- Every decision is the engine's own or what follows from the opinion of the policy. -/
theorem decide_follows :
    (e.decide now r).Ends answer fun _ ruling => ruling.Follows e r := by
  unfold decide
  split
  · exact Ruling.Follows.plain nofun
  · split
    · exact Ruling.Follows.plain (denial_isPlain r .empty)
    · refine Action.Ends.bind identify_turnsAway ?_
      intro asked outcome turned
      cases outcome with
      | error d => exact Ruling.Follows.plain (turned d rfl).isPlain
      | ok identity =>
          refine Action.Ends.bind (P := fun _ _ => True)
            (Action.ends_of_forall _ fun _ _ => trivial) ?_
          rintro - described -
          cases described with
          | ok lines => exact applyPolicy_follows lines.1 lines.2
          | error failure => exact Ruling.Follows.plain nofun

/-! ## Success -/

/-- The status of a denial tells of success when the status does that the policy names. -/
theorem success_status_iff (named : Option Nat) :
    (200 ≤ (named.filter fun code => 100 ≤ code && code < 1000).getD 403 ∧
        (named.filter fun code => 100 ≤ code && code < 1000).getD 403 < 300) ↔
      ∃ code, named = some code ∧ 200 ≤ code ∧ code < 300 := by
  cases named with
  | none => simp
  | some code =>
      by_cases standing : 100 ≤ code ∧ code < 1000
      · simp [Option.filter, standing]
      · simp only [Option.filter, Bool.and_eq_true, decide_eq_true_eq, if_neg standing]
        simp
        omega

/-- A policy denies with a status that tells of success when it names one. -/
theorem afterPolicy_success_iff {headers : Headers}
    {opinion : Except Policy.Failure (Option Policy.Answer)} :
    (∃ status lines, afterPolicy r headers opinion = .deny status lines ∧
        200 ≤ status ∧ status < 300) ↔
      ∃ refusal code, opinion = .ok (some refusal) ∧ refusal.allow = false ∧
        refusal.status = some code ∧ 200 ≤ code ∧ code < 300 := by
  cases opinion with
  | error failure => simp [afterPolicy]
  | ok opinion =>
      cases opinion with
      | none => simp [afterPolicy]
      | some refusal =>
          cases allows : refusal.allow with
          | true => simp [afterPolicy, allows]
          | false =>
              have denied : afterPolicy r headers (.ok (some refusal)) = denial r
                  ((refusal.status.filter fun code => 100 ≤ code && code < 1000).getD 403)
                  refusal.lines := by
                simp [afterPolicy, allows]
              simp only [denied, denial, Decision.deny.injEq]
              constructor
              · rintro ⟨status, lines, ⟨rfl, -⟩, success⟩
                obtain ⟨code, named⟩ := (success_status_iff refusal.status).1 success
                exact ⟨refusal, code, rfl, allows, named⟩
              · rintro ⟨_, code, ⟨⟩, -, named⟩
                exact ⟨_, _, ⟨rfl, rfl⟩, (success_status_iff refusal.status).2 ⟨code, named⟩⟩

/-- A delegated request is answered with success exactly when it is allowed, or when the policy
refuses it with a status that tells of success. -/
theorem isSuccess_decide_iff (e : Engine) (now : Time) (r : Request)
    (answer : σ → (q : Query) → Reply q × σ) (s : σ) :
    ((e.decide now r).run answer s).1.decision.response.isSuccess = true ↔
      (∃ headers, ((e.decide now r).run answer s).1.decision = .allow headers) ∨
      ∃ policy input refusal code, e.policy = some policy ∧
        ((e.decide now r).run answer s).1.consulted = some input ∧
        policy input = .ok (some refusal) ∧ refusal.allow = false ∧
        refusal.status = some code ∧ 200 ≤ code ∧ code < 300 := by
  have everyway : (e.decide now r).Ends answer fun _ ruling => ruling.Follows e r := decide_follows
  obtain ⟨-, follows⟩ := everyway.run s
  generalize ((e.decide now r).run answer s).1 = ruling at follows
  rw [Decision.isSuccess_response_iff]
  cases follows with
  | @plain d own =>
      refine or_congr_right ⟨?_, ?_⟩
      · rintro ⟨status, headers, denied, low, high⟩
        obtain rfl := own status headers denied
        omega
      · rintro ⟨_, _, _, _, _, asked, _⟩
        cases asked
  | @policy policy input headers present =>
      rw [afterPolicy_success_iff, present]
      refine or_congr_right ⟨?_, ?_⟩
      · rintro ⟨refusal, code, refused⟩
        exact ⟨policy, input, refusal, code, rfl, rfl, refused⟩
      · rintro ⟨policy', input', refusal, code, same, asked, refused⟩
        cases same
        cases asked
        exact ⟨refusal, code, refused⟩

example (r : Request) (headers : Headers) :
    (afterPolicy r headers (.ok (some ⟨false, some 204, .empty⟩))).response.isSuccess = true := rfl

end Engine

end Gatehouse.Forward
