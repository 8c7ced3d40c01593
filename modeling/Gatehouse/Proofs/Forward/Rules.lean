import Gatehouse.Forward.Request
import Gatehouse.Forward.Rules
import Gatehouse.Proofs.Except
import Gatehouse.Proofs.Text.LetterCase

/-!
# Access rules - What the document says

The verdict about a request comes from the compiled rules.  Here it is read off the document that
they were compiled from: the entry that counts, the rules of that entry that match, and whether the
request needs a login.

Main definitions:

- `WrittenRule.hits` and `WrittenEntry.covers`: what a written rule and a written entry match.
- `heard`: what some rules that match say.
- `WrittenRules.entryFor?`, `WrittenRules.hitsOf` and `WrittenRules.needsLoginFor`: what the document
  says about a request.

Main results:

- Theorem `WrittenRule.compile_ok`, theorem `WrittenEntry.compile_ok` and theorem
  `WrittenEntry.covers_of_compile`: a compiled rule or entry matches what the written one does.
- Theorem `WrittenRules.entryFor?_of_compile`: the first entry that covers a request was compiled
  from the first written entry that does.
- Theorem `WrittenRules.verdict_of_compile`: the verdict of compiled rules is that of the written
  rules that match.
-/

namespace Gatehouse.Forward

open List (Forall₂)
open Net (Address Network)

/-! ## Rules -/

/-- What a field says, unless it is absent or blank. -/
def fieldValue? {α : Type} (read : String → Option α) (field : Option String) : Option α :=
  (field.filter (!Text.isBlankText ·)).bind fun text => read (Text.trim text)

/-- A field is read as what it says. -/
theorem readField_ok {α : Type} {read : String → Option α} {fault : String → RuleError}
    {field : Option String} {value : Option α} (h : readField read fault field = .ok value) :
    value = fieldValue? read field := by
  unfold readField at h
  unfold fieldValue?
  cases hfield : field.filter (!Text.isBlankText ·) with
  | none =>
      rw [hfield] at h
      exact (Except.ok.inj h).symm
  | some text =>
      simp only [hfield] at h
      rw [Option.bind_some]
      cases hread : read (Text.trim text) with
      | none =>
          rw [hread] at h
          cases h
      | some a =>
          rw [hread] at h
          exact (Except.ok.inj h).symm

namespace WrittenRule

/-- Does a written rule name the address of the client, a network that has it, or the bearer
token? -/
def hits (w : WrittenRule) (client : Option Address) (bearer : Option String) : Bool :=
  (client.any fun address => fieldValue? Address.ofText? w.ip == some address) ||
    (client.any fun address =>
      (fieldValue? Network.ofText? w.network).any (·.contains address)) ||
    (bearer.any fun token => !token.isEmpty && w.token == some token)

/-- Whom a written rule lets in, unless it denies. -/
def grant? (w : WrittenRule) : Option Grant :=
  if w.deny then none else some ⟨w.subject.getD "", w.roles⟩

/-- What a written rule does is what it says. -/
theorem effect_ok {w : WrittenRule} {effect : Effect} (h : w.effect = .ok effect) :
    w.deny = (effect == .deny) ∧ w.grant? = Rule.grant? ⟨none, none, none, effect⟩ := by
  unfold WrittenRule.effect at h
  unfold grant?
  cases hdeny : w.deny with
  | true =>
      rw [if_pos hdeny] at h
      cases h
      exact ⟨rfl, rfl⟩
  | false =>
      simp only [hdeny, Bool.false_eq_true, if_false] at h
      split at h
      · cases h
      · cases h
        exact ⟨rfl, rfl⟩

/-- A present token that is not empty is the same as a present bearer token that is not. -/
theorem token_hits (token bearer : Option String) :
    (bearer.any fun t => !t.isEmpty && token == some t) =
      ((token.filter (!·.isEmpty)).isSome && token.filter (!·.isEmpty) == bearer) := by
  cases token with
  | none => cases bearer <;> simp
  | some token =>
      cases hempty : token.isEmpty with
      | true =>
          have dropped : (some token).filter (!·.isEmpty) = none := by simp [Option.filter, hempty]
          rw [dropped]
          cases bearer with
          | none => rfl
          | some bearer =>
              by_cases same : token = bearer
              · subst same
                simp [hempty]
              · simp [same]
      | false =>
          have kept : (some token).filter (!·.isEmpty) = some token := by
            simp [Option.filter, hempty]
          rw [kept]
          cases bearer with
          | none => simp
          | some bearer =>
              by_cases same : token = bearer
              · subst same
                simp [hempty]
              · simp [same]

/-- A compiled rule matches what the written one does, and does what the written one says. -/
theorem compile_ok {w : WrittenRule} {rule : Rule} (h : w.compile = .ok rule) :
    (∀ client bearer, w.hits client bearer = rule.matches client bearer) ∧
      w.deny = (rule.effect == .deny) ∧ w.grant? = rule.grant? := by
  obtain ⟨address, haddress, h₁⟩ := exists_of_bind_eq_ok h
  obtain ⟨network, hnetwork, h₂⟩ := exists_of_bind_eq_ok h₁
  obtain ⟨effect, heffect, h₃⟩ := exists_of_bind_eq_ok h₂
  cases h₃
  refine ⟨fun client bearer => ?_, effect_ok heffect⟩
  unfold hits Rule.matches
  rw [← readField_ok haddress, ← readField_ok hnetwork, token_hits]
  congr 2
  · cases client <;> cases address <;> simp
  · cases client <;> cases network <;> rfl

end WrittenRule

/-! ## Entries -/

namespace WrittenEntry

/-- Does a written entry cover a request? -/
def covers (w : WrittenEntry) (method url : String) : Bool :=
  (w.methods.isEmpty || w.methods.any fun name => Text.eqIgnoreCase (Text.trim name) method) &&
    (Pattern.ofText? w.url).any (·.isMatch url)

variable {readPattern : String → Option Pattern} {w : WrittenEntry} {entry : Entry}

/-- A compiled entry has the pattern, the methods and the rules of the written one. -/
theorem compile_ok (h : w.compile readPattern = .ok entry) :
    readPattern w.url = some entry.url ∧
      entry.methods = w.methods.map (fun m => Text.upperAscii (Text.trim m)) ∧
      entry.needsLogin = w.required.getD true ∧
      Forall₂ (fun written rule => written.compile = .ok rule) w.rules entry.rules := by
  unfold compile at h
  cases hpattern : readPattern w.url with
  | none =>
      rw [hpattern] at h
      cases h
  | some pattern =>
      simp only [hpattern] at h
      obtain ⟨rules, hrules, h₁⟩ := exists_of_bind_eq_ok h
      cases h₁
      exact ⟨rfl, rfl, rfl, forall₂_of_mapM_eq_ok hrules⟩

/-- A compiled entry covers what the written one does. -/
theorem covers_of_compile (h : w.compile Pattern.ofText? = .ok entry) (method url : String) :
    w.covers method url = entry.covers method url := by
  obtain ⟨pattern, methods, -, -⟩ := compile_ok h
  unfold covers Entry.covers
  rw [pattern, methods, List.isEmpty_map, List.any_map]
  simp only [Function.comp_def, Text.eqIgnoreCase_upperAscii, Option.any_some]

end WrittenEntry

/-! ## Verdicts -/

/-- What some rules that match say: one that denies is heard wherever it stands, and else the first
one. -/
def heard (hits : List WrittenRule) : Verdict :=
  if hits.any (·.deny) then .deny
  else
    match hits.findSome? (·.grant?) with
    | some grant => .allow grant
    | none => .silent

section Heard

variable {hits : List WrittenRule} {grant : Grant}

theorem heard_eq_deny_iff : heard hits = .deny ↔ ∃ rule ∈ hits, rule.deny = true := by
  rw [← List.any_eq_true, heard]
  cases hits.any (·.deny) with
  | true => simp
  | false => cases hits.findSome? (·.grant?) <;> simp

theorem heard_eq_allow_iff :
    heard hits = .allow grant ↔
      (¬∃ rule ∈ hits, rule.deny = true) ∧ hits.findSome? (·.grant?) = some grant := by
  rw [← List.any_eq_true, heard]
  cases hits.any (·.deny) with
  | true => simp
  | false => cases hits.findSome? (·.grant?) <;> simp

theorem heard_eq_silent_iff : heard hits = .silent ↔ hits = [] := by
  cases hits with
  | nil => simp [heard]
  | cons rule rest =>
      cases hdeny : rule.deny with
      | true => simp [heard, hdeny]
      | false =>
          have first : (rule :: rest).findSome? (·.grant?) =
              some ⟨rule.subject.getD "", rule.roles⟩ := by
            simp [WrittenRule.grant?, hdeny]
          rw [heard, first]
          cases (rule :: rest).any (·.deny) <;> simp

/-- Compiled rules that match say what the written ones say. -/
theorem verdict_eq_heard {entry : Entry} {client : Option Address} {bearer : Option String}
    (h : Forall₂ (fun written rule => written.compile = .ok rule) hits
      (entry.rules.filter (·.matches client bearer))) :
    entry.verdict client bearer = heard hits := by
  unfold Entry.verdict heard
  generalize entry.rules.filter (·.matches client bearer) = compiled at h
  have denials : hits.any (·.deny) = compiled.any (·.effect == .deny) := by
    induction h with
    | nil => rfl
    | cons first rest ih =>
        rw [List.any_cons, List.any_cons, (WrittenRule.compile_ok first).2.1, ih]
  have grants : hits.findSome? (·.grant?) = compiled.findSome? (·.grant?) := by
    clear denials
    induction h with
    | nil => rfl
    | cons first rest ih =>
        rw [List.findSome?_cons, List.findSome?_cons, (WrittenRule.compile_ok first).2.2, ih]
  cases first : compiled.findSome? (·.grant?) with
  | none => simp only [denials, grants, first]
  | some grant => simp only [denials, grants, first]

/-- The rules of a compiled entry say what the written rules say that match. -/
theorem WrittenEntry.verdict_of_compile {readPattern : String → Option Pattern} {w : WrittenEntry}
    {entry : Entry} (h : w.compile readPattern = .ok entry) (client : Option Address)
    (bearer : Option String) :
    entry.verdict client bearer = heard (w.rules.filter (·.hits client bearer)) := by
  obtain ⟨-, -, -, rules⟩ := WrittenEntry.compile_ok h
  apply verdict_eq_heard
  apply List.rel_filter _ rules
  intro written rule hrule
  exact Bool.eq_iff_iff.1 ((WrittenRule.compile_ok hrule).1 client bearer)

end Heard

/-! ## Documents -/

namespace WrittenRules

/-- The first written entry that covers a request. -/
def entryFor? (w : WrittenRules) (r : Request) : Option WrittenEntry :=
  w.entries.find? (·.covers r.method r.url)

/-- The rules of that entry that match the request, in their order. -/
def hitsOf (w : WrittenRules) (r : Request) : List WrittenRule :=
  (((w.entryFor? r).map (·.rules)).getD []).filter (·.hits r.client (Http.bearer? r.headers))

/-- Does the request need a login?  The entry says so, or the document for all that no entry
covers. -/
def needsLoginFor (w : WrittenRules) (r : Request) : Bool :=
  ((w.entryFor? r).map (·.required.getD true)).getD w.defaultRequired

variable {readPattern : String → Option Pattern} {w : WrittenRules} {rules : Rules}

/-- The entries of a compiled document are the written entries, compiled. -/
theorem forall₂_of_compileWith (h : w.compileWith readPattern = .ok rules) :
    Forall₂ (fun written entry => written.compile readPattern = .ok entry) w.entries
      rules.entries := by
  obtain ⟨entries, read, h₁⟩ := exists_of_bind_eq_ok h
  cases h₁
  exact forall₂_of_mapM_eq_ok read

/-- The first entry that covers a method and an address was compiled from the first written entry
that does. -/
theorem find?_of_compile (h : w.compile = .ok rules) (method url : String) :
    Option.Rel (fun written entry => written.compile Pattern.ofText? = .ok entry)
      (w.entries.find? (·.covers method url)) (rules.entryFor? method url) := by
  apply find?_of_forall₂ (forall₂_of_compileWith h)
  intro written entry compiled
  exact WrittenEntry.covers_of_compile compiled method url

/-- The first entry that covers a request was compiled from the first written entry that does. -/
theorem entryFor?_of_compile (h : w.compile = .ok rules) (r : Request) :
    Option.Rel (fun written entry => written.compile Pattern.ofText? = .ok entry) (w.entryFor? r)
      (rules.entryFor? r.method r.url) :=
  find?_of_compile h r.method r.url

/-- Compiled rules ask for a login where the document does. -/
theorem needsLoginFor_of_compile (h : w.compile = .ok rules) (r : Request) :
    rules.needsLoginFor (rules.entryFor? r.method r.url) = w.needsLoginFor r := by
  have same : rules.needsLogin = w.defaultRequired := by
    obtain ⟨entries, -, h₁⟩ := exists_of_bind_eq_ok h
    cases h₁
    rfl
  have covered := entryFor?_of_compile h r
  unfold needsLoginFor Rules.needsLoginFor
  rw [same]
  revert covered
  generalize w.entryFor? r = written, rules.entryFor? r.method r.url = entry
  intro covered
  cases covered with
  | none => rfl
  | some compiled =>
      obtain ⟨-, -, asked, -⟩ := WrittenEntry.compile_ok compiled
      exact asked

/-- Compiled rules say about a request what the rules of the document that match it say. -/
theorem verdict_of_compile (h : w.compile = .ok rules) (r : Request) :
    (match rules.entryFor? r.method r.url with
      | some entry => entry.verdict r.client (Http.bearer? r.headers)
      | none => .silent) = heard (w.hitsOf r) := by
  have covered := entryFor?_of_compile h r
  unfold hitsOf
  revert covered
  generalize w.entryFor? r = written, rules.entryFor? r.method r.url = entry
  intro covered
  cases covered with
  | none => rfl
  | some compiled => exact WrittenEntry.verdict_of_compile compiled _ _

end WrittenRules

end Gatehouse.Forward
