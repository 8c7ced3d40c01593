import Gatehouse.Proofs.Forward.Rules

/-!
# Access rules - Compilation

A document of rules compiles when everything in it can be understood, and else the error names what
comes first in the document that cannot.  What valid rules and their faults are is said here without
the compiler: by the fields of a rule, the order in which they are looked at, and the place of the
rule in the document.  A compiled rule matches a request only by something that the document says,
so a rule that says nothing matches nobody.

Main definitions:

- `Filled`, `Readable` and `Unreadable`: what can be said of a field that may be absent or blank.
- `WrittenRule.Valid`, `WrittenEntry.Valid` and `WrittenRules.Valid`: what can be compiled.
- `WrittenRule.FirstFault`, `WrittenEntry.FirstFault` and `WrittenRules.FirstFault`: the fault that
  comes first.
- `WrittenRule.Names` and `WrittenRule.IsIdle`: the requests that a written rule names, and rules
  that say nothing by which a request could be recognized.

Main results:

- Theorem `WrittenRule.compile_eq_error_iff`, theorem `WrittenEntry.compile_eq_error_iff` and theorem
  `WrittenRules.compileWith_eq_error_iff`: the error is the first fault.
- Theorem `WrittenRule.hits_iff_names`: a compiled rule matches the requests that the written one
  names.
- Theorem `WrittenRules.compile_exact`: what the compiler accepts, what it reports, and what the
  compiled rules match.
-/

namespace Gatehouse.Forward

open List (Forall₂)
open Net (Address Network)

/-! ## Fields -/

section Fields

variable {α : Type} {read : String → Option α} {fault : String → RuleError}
  {field : Option String} {text : String}

/-- The field is present and has more than blanks in it. -/
def Filled (field : Option String) (text : String) : Prop :=
  field = some text ∧ Text.isBlankText text = false

/-- The field is absent or blank, or can be understood once the blanks around it are removed. -/
inductive Readable (read : String → Option α) : Option String → Prop where
  | absent : Readable read none
  | blank {text : String} (blank : Text.isBlankText text = true) : Readable read (some text)
  | understood {text : String} {a : α} (meant : read (Text.trim text) = some a) :
      Readable read (some text)

/-- The field is filled in, and what it says cannot be understood. -/
def Unreadable (read : String → Option α) (field : Option String) (text : String) : Prop :=
  Filled field text ∧ read (Text.trim text) = none

/-- A field is either empty in the eyes of the compiler or filled in. -/
theorem filter_isBlankText_eq_some_iff :
    field.filter (!Text.isBlankText ·) = some text ↔ Filled field text := by
  rw [Option.filter_eq_some_iff, Bool.not_eq_true', Filled]

/-- What a field says is what its text says. -/
theorem fieldValue?_eq_some_iff {a : α} :
    fieldValue? read field = some a ↔
      ∃ text, Filled field text ∧ read (Text.trim text) = some a := by
  simp only [fieldValue?, Option.bind_eq_some_iff, filter_isBlankText_eq_some_iff]

/-- A field is read unless it is filled in with something that cannot be understood, and then the
error has its text. -/
theorem readField_eq_error_iff {e : RuleError} :
    readField read fault field = .error e ↔
      ∃ text, Unreadable read field text ∧ fault text = e := by
  unfold readField Unreadable
  constructor
  · intro failed
    split at failed
    · cases failed
    next text filled =>
      split at failed
      · cases failed
      next unread =>
        exact ⟨text, ⟨filter_isBlankText_eq_some_iff.1 filled, unread⟩, Except.error.inj failed⟩
  · rintro ⟨text, ⟨filled, unread⟩, rfl⟩
    rw [filter_isBlankText_eq_some_iff.2 filled]
    simp only [unread]

/-- The fields that are read are those that can be. -/
theorem exists_readField_eq_ok_iff (fault : String → RuleError) :
    (∃ value, readField read fault field = .ok value) ↔ Readable read field := by
  constructor
  · rintro ⟨value, done⟩
    cases field with
    | none => exact .absent
    | some text =>
        by_cases blank : Text.isBlankText text = true
        · exact .blank blank
        · have filled : Filled (some text) text := ⟨rfl, by simpa using blank⟩
          cases meant : read (Text.trim text) with
          | some a => exact .understood meant
          | none =>
              have failed :=
                (readField_eq_error_iff (e := fault text)).2 ⟨text, ⟨filled, meant⟩, rfl⟩
              rw [done] at failed
              cases failed
  · intro readable
    cases result : readField read fault field with
    | ok value => exact ⟨value, rfl⟩
    | error e =>
        obtain ⟨text, ⟨⟨rfl, filled⟩, unread⟩, -⟩ := readField_eq_error_iff.1 result
        cases readable with
        | blank blank => simp [blank] at filled
        | understood meant => simp [meant] at unread

end Fields

/-! ## Rules -/

namespace WrittenRule

variable {w : WrittenRule} {client : Option Address} {bearer : Option String} {fault : RuleError}

/-- The rule can be compiled: its fields can be read, and if it lets somebody in it says whom. -/
structure Valid (w : WrittenRule) : Prop where
  address : Readable Address.ofText? w.ip
  network : Readable Network.ofText? w.network
  subject : w.deny = true ∨ ∃ subject, w.subject = some subject ∧ subject ≠ ""

/-- What is wrong with a rule first: its address, then its network, then a missing subject. -/
inductive FirstFault (w : WrittenRule) : RuleError → Prop where
  | address {text : String} (wrong : Unreadable Address.ofText? w.ip text) :
      FirstFault w (.address text)
  | network {text : String} (address : Readable Address.ofText? w.ip)
      (wrong : Unreadable Network.ofText? w.network text) : FirstFault w (.network text)
  | missingSubject (address : Readable Address.ofText? w.ip)
      (network : Readable Network.ofText? w.network) (allows : w.deny = false)
      (unnamed : w.subject = none ∨ w.subject = some "") : FirstFault w .missingSubject

/-- The only thing wrong with what a rule does is a subject that is absent or empty. -/
theorem effect_eq_error_iff :
    w.effect = .error fault ↔
      w.deny = false ∧ (w.subject = none ∨ w.subject = some "") ∧ .missingSubject = fault := by
  unfold effect
  cases w.deny with
  | true => simp
  | false =>
      cases w.subject with
      | none => simp
      | some subject =>
          by_cases empty : subject = ""
          · simp [empty]
          · simp [empty]

/-- What a rule does is clear when it denies or names a subject. -/
theorem exists_effect_eq_ok_iff :
    (∃ effect, w.effect = .ok effect) ↔
      w.deny = true ∨ ∃ subject, w.subject = some subject ∧ subject ≠ "" := by
  unfold effect
  cases w.deny with
  | true => simp
  | false =>
      cases w.subject with
      | none => simp
      | some subject =>
          by_cases empty : subject = ""
          · simp [empty]
          · simp [empty]

/-- The error of a rule is its first fault. -/
theorem compile_eq_error_iff : w.compile = .error fault ↔ w.FirstFault fault := by
  unfold compile
  simp only [bind_eq_error_iff, readField_eq_error_iff, effect_eq_error_iff]
  constructor
  -- The fields are read in the order in which their faults count.
  · rintro (⟨text, wrong, rfl⟩ | ⟨address, read, ⟨text, wrong, rfl⟩ | ⟨network, readNext, rest⟩⟩)
    · exact .address wrong
    · exact .network ((exists_readField_eq_ok_iff .address).1 ⟨address, read⟩) wrong
    · rcases rest with ⟨allows, unnamed, rfl⟩ | ⟨effect, -, impossible⟩
      · exact .missingSubject ((exists_readField_eq_ok_iff .address).1 ⟨address, read⟩)
          ((exists_readField_eq_ok_iff .network).1 ⟨network, readNext⟩) allows unnamed
      · cases impossible
  · intro first
    cases first with
    | address wrong => exact .inl ⟨_, wrong, rfl⟩
    | network address wrong =>
        obtain ⟨value, read⟩ := (exists_readField_eq_ok_iff .address).2 address
        exact .inr ⟨value, read, .inl ⟨_, wrong, rfl⟩⟩
    | missingSubject address network allows unnamed =>
        obtain ⟨value, read⟩ := (exists_readField_eq_ok_iff .address).2 address
        obtain ⟨next, readNext⟩ := (exists_readField_eq_ok_iff .network).2 network
        exact .inr ⟨value, read, .inr ⟨next, readNext, .inl ⟨allows, unnamed, rfl⟩⟩⟩

/-- The rules that compile are the valid ones. -/
theorem exists_compile_eq_ok_iff : (∃ rule, w.compile = .ok rule) ↔ w.Valid := by
  constructor
  · rintro ⟨rule, done⟩
    obtain ⟨address, read, rest⟩ := exists_of_bind_eq_ok done
    obtain ⟨network, readNext, rest⟩ := exists_of_bind_eq_ok rest
    obtain ⟨effect, clear, -⟩ := exists_of_bind_eq_ok rest
    exact {
      address := (exists_readField_eq_ok_iff .address).1 ⟨address, read⟩
      network := (exists_readField_eq_ok_iff .network).1 ⟨network, readNext⟩
      subject := exists_effect_eq_ok_iff.1 ⟨effect, clear⟩ }
  · intro valid
    obtain ⟨address, read⟩ := (exists_readField_eq_ok_iff .address).2 valid.address
    obtain ⟨network, readNext⟩ := (exists_readField_eq_ok_iff .network).2 valid.network
    obtain ⟨effect, clear⟩ := exists_effect_eq_ok_iff.2 valid.subject
    refine ⟨⟨address, network, w.token.filter (!·.isEmpty), effect⟩, ?_⟩
    rw [compile, read, readNext, clear]
    rfl

/-- The requests that a written rule names: those of clients with its address, of clients in its
network, and those that bear its token. -/
inductive Names (w : WrittenRule) : Option Address → Option String → Prop where
  | address {text : String} {client : Address} {bearer : Option String} (given : Filled w.ip text)
      (meant : Address.ofText? (Text.trim text) = some client) : Names w (some client) bearer
  | network {text : String} {network : Network} {client : Address} {bearer : Option String}
      (given : Filled w.network text) (meant : Network.ofText? (Text.trim text) = some network)
      (member : network.contains client = true) : Names w (some client) bearer
  | token {token : String} {client : Option Address} (given : w.token = some token)
      (nonempty : token ≠ "") : Names w client (some token)

/-- The rule has neither an address nor a network, and no token that a request could bear. -/
structure IsIdle (w : WrittenRule) : Prop where
  address : ¬∃ text, Filled w.ip text
  network : ¬∃ text, Filled w.network text
  token : w.token = none ∨ w.token = some ""

/-- A rule matches the requests that it names. -/
theorem hits_iff_names : w.hits client bearer = true ↔ w.Names client bearer := by
  simp only [hits, Bool.or_eq_true, Option.any_eq_true, beq_iff_eq, fieldValue?_eq_some_iff,
    Bool.and_eq_true, Bool.not_eq_true', String.isEmpty_eq_false_iff]
  constructor
  · rintro ((⟨address, rfl, text, given, meant⟩ |
      ⟨address, rfl, network, ⟨text, given, meant⟩, member⟩) | ⟨token, rfl, nonempty, given⟩)
    · exact .address given meant
    · exact .network given meant member
    · exact .token given nonempty
  · intro named
    cases named with
    | address given meant => exact .inl (.inl ⟨_, rfl, _, given, meant⟩)
    | network given meant member => exact .inl (.inr ⟨_, rfl, _, ⟨_, given, meant⟩, member⟩)
    | token given nonempty => exact .inr ⟨_, rfl, nonempty, given⟩

/-- A rule that says nothing names no request. -/
theorem IsIdle.not_names (idle : w.IsIdle) : ¬w.Names client bearer := by
  intro named
  cases named with
  | address given meant => exact idle.address ⟨_, given⟩
  | network given meant member => exact idle.network ⟨_, given⟩
  | token given nonempty =>
      rcases idle.token with absent | empty
      · simp [absent] at given
      · rw [empty] at given
        exact nonempty (Option.some.inj given).symm

/-- A compiled rule matches the requests that the written one names. -/
theorem matches_iff_names {rule : Rule} (compiled : w.compile = .ok rule) :
    rule.matches client bearer = true ↔ w.Names client bearer := by
  rw [← (compile_ok compiled).1, hits_iff_names]

end WrittenRule

/-! ## Entries -/

namespace WrittenEntry

variable {readPattern : String → Option Pattern} {w : WrittenEntry} {fault : RuleError}

/-- The entry can be compiled: its pattern can be read, and its rules are valid. -/
structure Valid (readPattern : String → Option Pattern) (w : WrittenEntry) : Prop where
  pattern : ∃ pattern, readPattern w.url = some pattern
  rules : ∀ rule ∈ w.rules, rule.Valid

/-- What is wrong with an entry first: its pattern, then the first of its rules that has a fault. -/
inductive FirstFault (readPattern : String → Option Pattern) (w : WrittenEntry) :
    RuleError → Prop where
  | pattern (wrong : readPattern w.url = none) : FirstFault readPattern w (.pattern w.url)
  | rule {fault : RuleError} {before after : List WrittenRule} {rule : WrittenRule}
      (pattern : ∃ pattern, readPattern w.url = some pattern)
      (place : w.rules = before ++ rule :: after) (earlier : ∀ rule ∈ before, rule.Valid)
      (wrong : rule.FirstFault fault) : FirstFault readPattern w fault

/-- The error of an entry is its first fault. -/
theorem compile_eq_error_iff :
    w.compile readPattern = .error fault ↔ w.FirstFault readPattern fault := by
  unfold compile
  cases meant : readPattern w.url with
  | none =>
      constructor
      · intro failed
        cases failed
        exact .pattern meant
      · intro first
        cases first with
        | pattern wrong => rfl
        | rule pattern place earlier wrong => simp [meant] at pattern
  | some url =>
      simp only [bind_eq_error_iff, mapM_eq_error_iff, WrittenRule.exists_compile_eq_ok_iff,
        WrittenRule.compile_eq_error_iff]
      constructor
      · rintro (⟨before, rule, after, place, earlier, wrong⟩ | ⟨rules, -, impossible⟩)
        · exact .rule ⟨url, meant⟩ place earlier wrong
        · cases impossible
      · intro first
        cases first with
        | pattern wrong => simp [meant] at wrong
        | rule pattern place earlier wrong => exact .inl ⟨_, _, _, place, earlier, wrong⟩

/-- The entries that compile are the valid ones. -/
theorem exists_compile_eq_ok_iff :
    (∃ entry, w.compile readPattern = .ok entry) ↔ w.Valid readPattern := by
  constructor
  · rintro ⟨entry, done⟩
    unfold compile at done
    cases meant : readPattern w.url with
    | none =>
        rw [meant] at done
        cases done
    | some url =>
        simp only [meant] at done
        obtain ⟨rules, read, -⟩ := exists_of_bind_eq_ok done
        refine ⟨⟨url, meant⟩, ?_⟩
        intro rule mem
        exact WrittenRule.exists_compile_eq_ok_iff.1
          (exists_mapM_eq_ok_iff.1 ⟨rules, read⟩ rule mem)
  · rintro ⟨⟨url, meant⟩, valid⟩
    have compiled : ∀ rule ∈ w.rules, ∃ compiled, rule.compile = .ok compiled := by
      intro rule mem
      exact WrittenRule.exists_compile_eq_ok_iff.2 (valid rule mem)
    obtain ⟨rules, read⟩ := exists_mapM_eq_ok_iff.2 compiled
    simp only [compile, meant, read]
    exact ⟨_, rfl⟩

/-- The rules of a compiled entry are silent about the requests that no written rule names. -/
theorem verdict_eq_silent_iff {entry : Entry} (compiled : w.compile readPattern = .ok entry)
    {client : Option Address} {bearer : Option String} :
    entry.verdict client bearer = .silent ↔ ∀ rule ∈ w.rules, ¬rule.Names client bearer := by
  rw [verdict_of_compile compiled, heard_eq_silent_iff, List.filter_eq_nil_iff]
  simp only [WrittenRule.hits_iff_names]

end WrittenEntry

/-! ## Documents -/

namespace WrittenRules

variable {readPattern : String → Option Pattern} {w : WrittenRules} {rules : Rules}
  {fault : RuleError}

/-- The document can be compiled: all its entries are valid. -/
def Valid (readPattern : String → Option Pattern) (w : WrittenRules) : Prop :=
  ∀ entry ∈ w.entries, entry.Valid readPattern

/-- What is wrong with a document first: what is wrong first with the first entry that has a fault.
-/
inductive FirstFault (readPattern : String → Option Pattern) (w : WrittenRules) :
    RuleError → Prop where
  | entry {fault : RuleError} {before after : List WrittenEntry} {entry : WrittenEntry}
      (place : w.entries = before ++ entry :: after)
      (earlier : ∀ entry ∈ before, entry.Valid readPattern)
      (wrong : entry.FirstFault readPattern fault) : FirstFault readPattern w fault

/-- The documents that compile are the valid ones. -/
theorem exists_compileWith_eq_ok_iff :
    (∃ rules, w.compileWith readPattern = .ok rules) ↔ w.Valid readPattern := by
  constructor
  · rintro ⟨rules, done⟩ entry mem
    obtain ⟨entries, read, -⟩ := exists_of_bind_eq_ok done
    exact WrittenEntry.exists_compile_eq_ok_iff.1
      (exists_mapM_eq_ok_iff.1 ⟨entries, read⟩ entry mem)
  · intro valid
    have compiled : ∀ entry ∈ w.entries, ∃ compiled, entry.compile readPattern = .ok compiled := by
      intro entry mem
      exact WrittenEntry.exists_compile_eq_ok_iff.2 (valid entry mem)
    obtain ⟨entries, read⟩ := exists_mapM_eq_ok_iff.2 compiled
    refine ⟨⟨w.defaultRequired, entries⟩, ?_⟩
    rw [compileWith, read]
    rfl

/-- The error of a document is its first fault. -/
theorem compileWith_eq_error_iff :
    w.compileWith readPattern = .error fault ↔ w.FirstFault readPattern fault := by
  simp only [compileWith, bind_eq_error_iff, mapM_eq_error_iff,
    WrittenEntry.exists_compile_eq_ok_iff, WrittenEntry.compile_eq_error_iff]
  constructor
  · rintro (⟨before, entry, after, place, earlier, wrong⟩ | ⟨entries, -, impossible⟩)
    · exact .entry place earlier wrong
    · cases impossible
  · rintro ⟨place, earlier, wrong⟩
    exact .inl ⟨_, _, _, place, earlier, wrong⟩

/-- Whatever texts are patterns, a document compiles exactly when it is valid, and else the error is
its first fault.  The compiled rules match the requests that the written ones name, so a rule that
says nothing matches none, and entries without other rules are silent about everybody. -/
theorem compile_exact (readPattern : String → Option Pattern) (w : WrittenRules) :
    ((∃ rules, w.compileWith readPattern = .ok rules) ↔ w.Valid readPattern) ∧
    (∀ fault, w.compileWith readPattern = .error fault ↔ w.FirstFault readPattern fault) ∧
    ∀ rules, w.compileWith readPattern = .ok rules →
      Forall₂ (fun (written : WrittenEntry) (entry : Entry) =>
        readPattern written.url = some entry.url ∧
        Forall₂ (fun (written : WrittenRule) (rule : Rule) =>
          (∀ client bearer, rule.matches client bearer = true ↔ written.Names client bearer) ∧
          (written.IsIdle → ∀ client bearer, rule.matches client bearer = false))
          written.rules entry.rules ∧
        ((∀ rule ∈ written.rules, rule.IsIdle) →
          ∀ client bearer, entry.verdict client bearer = .silent))
        w.entries rules.entries := by
  refine ⟨exists_compileWith_eq_ok_iff, fun _ => compileWith_eq_error_iff, ?_⟩
  intro rules done
  apply (forall₂_of_compileWith done).imp
  intro written entry compiled
  obtain ⟨pattern, -, -, compiledRules⟩ := WrittenEntry.compile_ok compiled
  refine ⟨pattern, ?_, ?_⟩
  · apply compiledRules.imp
    intro writtenRule rule compiledRule
    refine ⟨fun client bearer => WrittenRule.matches_iff_names compiledRule, ?_⟩
    intro idle client bearer
    rw [Bool.eq_false_iff, ne_eq, WrittenRule.matches_iff_names compiledRule]
    exact idle.not_names
  · intro idle client bearer
    rw [WrittenEntry.verdict_eq_silent_iff compiled]
    intro rule mem
    exact (idle rule mem).not_names

example :
    (⟨true, [⟨".*", [], none, [⟨some " ", some "10.0.0.0/40", none, false, none, []⟩]⟩,
      ⟨"(", [], none, []⟩]⟩ : WrittenRules).compile = .error (.network "10.0.0.0/40") := by
  rfl

end WrittenRules

end Gatehouse.Forward
