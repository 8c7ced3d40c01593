import Gatehouse.Proofs.Forward.Engine
import Gatehouse.Proofs.Http.Header

/-!
# Lines of policies - What becomes of the lines of an identity

A policy that allows a request names lines for the header of the response.  They extend the lines
that describe who makes the request: a name that the policy gives takes the place of all lines of
that name, whichever case its letters were written in, and all other lines stay as often as they
stand.

Main definitions:

- `Answer.Names` and `Answer.times`: the names and lines that a policy gives.
- `Engine.described`: deciding about a request up to the question to the policy.

Main results:

- Theorem `Answer.count_lines`: the lines of a policy are those that it gives.
- Theorem `Engine.run_decide`: the policy is only asked after everything else.
- Theorem `Engine.allowing_policy_lines`: the lines of a request that a policy allows.
-/

namespace Gatehouse.Policy

open Http (Headers line?)

namespace Answer

variable {a : Answer}

/-- The policy gives a line of the name that may stand in a header. -/
def Names (a : Answer) (name : String) : Prop :=
  ∃ entry ∈ a.headers.entries, ∃ value, line? entry.1 entry.2 = some (name, value)

/-- How often the policy gives a line: two of its names can differ in case alone. -/
def times (a : Answer) (line : String × Bytes) : Nat :=
  a.headers.entries.countP fun entry => line? entry.1 entry.2 == some line

/-- The lines of a policy are those that it gives, in some order. -/
theorem lines_perm (a : Answer) :
    a.lines.lines.Perm (a.headers.entries.filterMap fun entry => line? entry.1 entry.2) := by
  have written : a.lines.lines = (a.headers.entries.mergeSort fun s t => s.1 ≤ t.1).filterMap
      fun entry => line? entry.1 entry.2 := Headers.lines_foldl_appendText .empty _
  rw [written]
  exact (List.mergeSort_perm a.headers.entries _).filterMap _

theorem count_lines (a : Answer) (line : String × Bytes) : a.lines.lines.count line = a.times line := by
  rw [a.lines_perm.count_eq, List.count_filterMap]
  rfl

theorem contains_lines_iff (a : Answer) (name : String) :
    a.lines.contains name = true ↔ a.Names name := by
  rw [Headers.contains_iff]
  constructor
  · rintro ⟨⟨name, value⟩, stands, rfl⟩
    obtain ⟨entry, given, made⟩ := List.mem_filterMap.1 (a.lines_perm.mem_iff.1 stands)
    exact ⟨entry, given, value, made⟩
  · rintro ⟨entry, given, value, made⟩
    exact ⟨(name, value), a.lines_perm.mem_iff.2 (List.mem_filterMap.2 ⟨entry, given, made⟩), rfl⟩

end Answer

end Gatehouse.Policy

namespace Gatehouse.Forward

open Http (Headers line?)
open Policy (Answer Subject)
open Store (Action Memory Query Reply)
open Token (Time)

variable {σ : Type} {answer : σ → (q : Query) → Reply q × σ} {e : Engine} {now : Time}
  {r : Request} {s : σ}

namespace Engine

/-! ## Before the policy is asked -/

/-- Decide about a request, or tell whom the policy has to be asked about. -/
def described (e : Engine) (now : Time) (r : Request) :
    Action (Except Decision (Headers × Option Subject)) :=
  if r.method == "OPTIONS" then return .error (.allow .empty)
  else if e.verdict r = .deny then return .error (denial r 403 .empty)
  else do
    match ← e.identify now r with
    | .error decision => return .error decision
    | .ok identity =>
      match ← (e.describe identity).run with
      | .ok lines => return .ok lines
      | .error _ => return .error .error

/-- What is said with the policy about a request that has been looked at. -/
def conclude (e : Engine) (r : Request) : Except Decision (Headers × Option Subject) → Ruling
  | .error decision => .plain decision
  | .ok (headers, subject) => e.applyPolicy r headers subject

/-- The policy is only asked after everything else. -/
theorem decide_eq : e.decide now r = (e.described now r).bind fun x => .done (e.conclude r x) := by
  unfold decide described decideUndenied
  split
  · rfl
  · split
    · rfl
    · simp only [Action.bind_eq, Action.bind_assoc]
      congr 1
      funext found
      cases found with
      | error decision => rfl
      | ok identity =>
          simp only [Action.bind_assoc]
          congr 1
          funext lines
          cases lines <;> rfl

theorem run_decide (e : Engine) (now : Time) (r : Request) (s : σ) :
    ((e.decide now r).run answer s).1 = e.conclude r ((e.described now r).run answer s).1 := by
  rw [decide_eq, Action.run_bind]
  rfl

/-- The engine without its policy. -/
def withoutPolicy (e : Engine) : Engine :=
  { e with policy := none }

/-- Nothing before the policy depends on it. -/
theorem described_withoutPolicy : e.withoutPolicy.described now r = e.described now r := rfl

/-- A policy is asked about a request that is let through when there is none, and what follows is
told from the lines of that. -/
theorem conclude_of_consulted {looked : Except Decision (Headers × Option Subject)}
    {policy : Policy.Input → Except Policy.Failure (Option Answer)} {input : Policy.Input}
    (present : e.policy = some policy) (asked : (e.conclude r looked).consulted = some input) :
    ∃ portrait, (e.withoutPolicy.conclude r looked).decision = .allow portrait ∧
      (e.conclude r looked).decision = afterPolicy r portrait (policy input) := by
  cases looked with
  | error decision => cases asked
  | ok lines =>
      simp only [conclude, applyPolicy, present, Option.some.injEq] at asked ⊢
      exact ⟨lines.1, rfl, by rw [asked]⟩

/-! ## Lines of a request that a policy allows -/

/-- A policy that allows a request leaves exactly the lines of the identity alone whose names it
does not give; all lines that it gives stand in the header.  So no line of the identity is lost
exactly when the policy repeats those whose names it gives. -/
theorem allowing_policy_lines {policy : Policy.Input → Except Policy.Failure (Option Answer)}
    {input : Policy.Input} {opinion : Answer} (present : e.policy = some policy)
    (asked : ((e.decide now r).run answer s).1.consulted = some input)
    (told : policy input = .ok (some opinion)) (allows : opinion.allow = true) :
    ∃ portrait headers : Headers,
      ((e.withoutPolicy.decide now r).run answer s).1.decision = .allow portrait ∧
      ((e.decide now r).run answer s).1.decision = .allow headers ∧
      (∀ line, opinion.Names line.1 → headers.lines.count line = opinion.times line) ∧
      (∀ line, ¬opinion.Names line.1 → headers.lines.count line = portrait.lines.count line) ∧
      (∀ entry ∈ opinion.headers.entries, ∀ line, line? entry.1 entry.2 = some line →
        line ∈ headers.lines) ∧
      ((∀ line, portrait.lines.count line ≤ headers.lines.count line) ↔
        ∀ line ∈ portrait.lines, opinion.Names line.1 →
          portrait.lines.count line ≤ opinion.times line) := by
  rw [run_decide] at asked
  obtain ⟨portrait, alone, followed⟩ := conclude_of_consulted present asked
  have allowed : ((e.decide now r).run answer s).1.decision =
      .allow (portrait.extend opinion.lines) := by
    rw [run_decide, followed, told]
    simp [afterPolicy, allows]
  have named (line : String × Bytes) (names : opinion.Names line.1) :
      (portrait.extend opinion.lines).lines.count line = opinion.times line := by
    rw [Headers.count_extend, if_pos ((opinion.contains_lines_iff line.1).2 names),
      opinion.count_lines]
  have unnamed (line : String × Bytes) (free : ¬opinion.Names line.1) :
      (portrait.extend opinion.lines).lines.count line = portrait.lines.count line := by
    rw [Headers.count_extend, if_neg (mt (opinion.contains_lines_iff line.1).1 free)]
  refine ⟨portrait, portrait.extend opinion.lines, ?_, allowed, named, unnamed, ?_, ?_⟩
  · rw [run_decide, described_withoutPolicy, alone]
  · intro entry given line made
    have stands : line ∈ opinion.lines.lines :=
      opinion.lines_perm.mem_iff.2 (List.mem_filterMap.2 ⟨entry, given, made⟩)
    exact List.mem_append_right _ stands
  · constructor
    · intro kept line _ names
      rw [← named line names]
      exact kept line
    · intro repeated line
      by_cases names : opinion.Names line.1
      · rw [named line names]
        by_cases stands : line ∈ portrait.lines
        · exact repeated line stands names
        · rw [List.count_eq_zero.2 stands]
          exact Nat.zero_le _
      · exact Nat.le_of_eq (unnamed line names).symm

/-- The engine of the house with a policy that gives its guests a role and a name. -/
def guestEngine : Engine :=
  { houseEngine with policy := some fun _ => .ok (some
      ⟨true, none, .ofList [("Remote-Role", "guest"), ("x-tenant", "house"), ("bad name", "x")]⟩) }

/-- The robot is a reader without the policy, and a guest with it. -/
theorem guestEngine_robot :
    ∃ portrait headers input opinion, guestEngine.policy = some (fun _ => .ok (some opinion)) ∧
      ((guestEngine.decide 1000 (robotRequest (.v4 0x0B000001))).run Memory.answer
        .empty).1.consulted = some input ∧ opinion.allow = true ∧
      ((guestEngine.withoutPolicy.decide 1000 (robotRequest (.v4 0x0B000001))).run Memory.answer
        .empty).1.decision = .allow portrait ∧
      ((guestEngine.decide 1000 (robotRequest (.v4 0x0B000001))).run Memory.answer
        .empty).1.decision = .allow headers ∧
      ("remote-role", utf8 "reader") ∈ portrait.lines ∧
      ("remote-role", utf8 "reader") ∉ headers.lines ∧
      ("remote-role", utf8 "guest") ∈ headers.lines := by
  obtain ⟨input, asked⟩ : ∃ input, ((guestEngine.decide 1000
      (robotRequest (.v4 0x0B000001))).run Memory.answer .empty).1.consulted = some input :=
    Option.isSome_iff_exists.1 (by decide +kernel)
  obtain ⟨portrait, headers, alone, allowed, named, -, given, -⟩ :=
    allowing_policy_lines rfl asked rfl rfl
  have reader : ((guestEngine.withoutPolicy.decide 1000 (robotRequest (.v4 0x0B000001))).run
      Memory.answer .empty).1.decision = .allow
        ⟨[("remote-role", utf8 "reader"), ("remote-user-id", utf8 "robot")]⟩ := by
    decide +kernel
  obtain rfl := Decision.allow.inj (alone.symm.trans reader)
  have lost := named ("remote-role", utf8 "reader") ⟨_, .head _, utf8 "guest", by decide⟩
  exact ⟨_, headers, input, _, rfl, asked, rfl, alone, allowed, .head _,
    List.count_eq_zero.1 (lost.trans (by decide)), given _ (.head _) _ (by decide)⟩

end Engine

end Gatehouse.Forward
