import Gatehouse.Proofs.Forward.Compilation
import Gatehouse.Proofs.Forward.ForgedLines

/-!
# Deciding about delegated requests - The subjects of rules

A stranger whom a rule lets in goes by the name that the rule gives.  The compiler refuses rules
that let somebody in without a name.  A name of nothing but blanks counts as a name, other than an
address or a network of nothing but blanks, and is handed on as it stands.

Main definitions:

- `WrittenEntry.Picks`: the rule of an entry that lets a request in.

Main results:

- Theorem `WrittenEntry.verdict_eq_allow_iff`: whom a compiled entry lets in.
- Theorem `Engine.portrait_subject_id`: the name under which the subject of a rule is let through.
- Theorem `Engine.named_by_rule`: who is let in, and under which name.
-/

namespace Gatehouse.Forward

open Http (Headers)
open Net (Address)
open Store (Memory User)

/-! ## The rule that lets somebody in -/

/-- The rule is the first of an entry that names the request, and no rule denies that does. -/
inductive WrittenEntry.Picks (w : WrittenEntry) (client : Option Address) (bearer : Option String) :
    WrittenRule → Prop where
  | first {before after : List WrittenRule} {rule : WrittenRule}
      (place : w.rules = before ++ rule :: after)
      (earlier : ∀ other ∈ before, ¬other.Names client bearer) (names : rule.Names client bearer)
      (quiet : ∀ other ∈ w.rules, other.Names client bearer → other.deny = false) :
      Picks w client bearer rule

/-- Where no rule denies, the first one lets in. -/
theorem findSome?_grant? {hits : List WrittenRule} (quiet : ∀ rule ∈ hits, rule.deny = false) :
    hits.findSome? (·.grant?) = hits.head?.map fun rule => ⟨rule.subject.getD "", rule.roles⟩ := by
  cases hits with
  | nil => rfl
  | cons rule rest =>
      have allows := quiet rule List.mem_cons_self
      simp [WrittenRule.grant?, allows]

namespace WrittenEntry

variable {w : WrittenEntry} {entry : Entry} {client : Option Address} {bearer : Option String}
  {rule : WrittenRule} {grant : Grant}

theorem Picks.mem (h : w.Picks client bearer rule) : rule ∈ w.rules := by
  obtain ⟨place, -, -, -⟩ := h
  rw [place]
  exact List.mem_append_right _ List.mem_cons_self

/-- The rule that lets somebody in does not deny. -/
theorem Picks.allows (h : w.Picks client bearer rule) : rule.deny = false := by
  have mem := h.mem
  obtain ⟨-, -, names, quiet⟩ := h
  exact quiet rule mem names

/-- The rule that lets somebody in is the first that hits the request, where no rule denies. -/
theorem picks_iff :
    w.Picks client bearer rule ↔
      (∀ other ∈ w.rules, other.Names client bearer → other.deny = false) ∧
        w.rules.find? (·.hits client bearer) = some rule := by
  rw [List.find?_eq_some_iff_append, WrittenRule.hits_iff_names]
  constructor
  · rintro ⟨place, earlier, names, quiet⟩
    refine ⟨quiet, names, _, _, place, ?_⟩
    intro other mem
    rw [Bool.not_eq_true', Bool.eq_false_iff, ne_eq, WrittenRule.hits_iff_names]
    exact earlier other mem
  · rintro ⟨quiet, names, before, after, place, earlier⟩
    refine .first place ?_ names quiet
    intro other mem named
    have missed := earlier other mem
    rw [WrittenRule.hits_iff_names.2 named] at missed
    cases missed

/-- A compiled entry lets in whom the rule says that lets the request in. -/
theorem verdict_eq_allow_iff {readPattern : String → Option Pattern}
    (compiled : w.compile readPattern = .ok entry) :
    entry.verdict client bearer = .allow grant ↔
      ∃ rule, w.Picks client bearer rule ∧ rule.subject = some grant.subject ∧
        rule.roles = grant.roles ∧ grant.subject ≠ "" := by
  have quiet : (¬∃ rule ∈ w.rules.filter (·.hits client bearer), rule.deny = true) ↔
      ∀ rule ∈ w.rules, rule.Names client bearer → rule.deny = false := by
    simp [WrittenRule.hits_iff_names]
  have first (h : ∀ rule ∈ w.rules, rule.Names client bearer → rule.deny = false) :
      (w.rules.filter (·.hits client bearer)).findSome? (·.grant?) =
        (w.rules.find? (·.hits client bearer)).map fun rule =>
          ⟨rule.subject.getD "", rule.roles⟩ := by
    rw [findSome?_grant? (by simpa [WrittenRule.hits_iff_names] using h), List.head?_filter]
  rw [verdict_of_compile compiled, heard_eq_allow_iff, quiet]
  constructor
  · rintro ⟨allowed, granted⟩
    rw [first allowed, Option.map_eq_some_iff] at granted
    obtain ⟨rule, found, rfl⟩ := granted
    have picks := picks_iff.2 ⟨allowed, found⟩
    have valid := (exists_compile_eq_ok_iff.1 ⟨entry, compiled⟩).rules rule picks.mem
    rcases valid.subject with denies | ⟨subject, named, nonempty⟩
    · rw [picks.allows] at denies
      cases denies
    · exact ⟨rule, picks, by simp [named], rfl, by simpa [named] using nonempty⟩
  · rintro ⟨rule, picks, named, roles, -⟩
    obtain ⟨allowed, found⟩ := picks_iff.1 picks
    refine ⟨allowed, ?_⟩
    rw [first allowed, found, Option.map_some, named, roles]
    rfl

end WrittenEntry

namespace Engine

variable {e : Engine} {w : WrittenRules} {now : Token.Time} {m : Memory} {r : Request}
  {grant : Grant} {headers : Headers}

/-! ## The name that is handed on -/

/-- The values of a name are those of the entries with this name that may stand in a header. -/
theorem values_withEntries (entries : List (String × String)) (name : String) :
    (withEntries .empty entries).values name =
      (entries.filter fun entry => Http.fieldName? entry.1 == some name).filterMap
        fun entry => Http.fieldValue? (utf8 entry.2) := by
  have each : ∀ entry : String × String,
      ((Http.line? entry.1 entry.2).filter (·.1 == name)).map (·.2) =
        if Http.fieldName? entry.1 == some name then Http.fieldValue? (utf8 entry.2) else none := by
    intro entry
    unfold Http.line?
    cases Http.fieldName? entry.1 with
    | none => rfl
    | some other =>
        by_cases same : other = name
        · cases Http.fieldValue? (utf8 entry.2) <;> simp [same]
        · cases Http.fieldValue? (utf8 entry.2) <;> simp [same]
  rw [withEntries, Headers.values, Headers.lines_foldl_appendText, Headers.empty, List.nil_append,
    List.filter_filterMap, List.map_filterMap, List.filterMap_filter]
  simp only [each]

/-- The name of the line with the id may stand in a header as it is. -/
theorem fieldName?_id : Http.fieldName? "remote-user-id" = some "remote-user-id" := rfl

/-- The names of the other lines are other ones. -/
theorem fieldName?_ne_id :
    ∀ name ∈ ["remote-role", "remote-user", "remote-display-name", "remote-mail",
      "remote-mail-verified", "remote-avatar-url"],
      Http.fieldName? name ≠ some "remote-user-id" := by
  decide +kernel

/-- Of the entries that describe a user only one has the id. -/
theorem filter_userEntries (profile : Access.Profile) :
    ((e.userEntries profile).filter fun entry => Http.fieldName? entry.1 == some "remote-user-id") =
      [("remote-user-id", profile.id)] := by
  -- Which entries there are depends on the name that is shown and on the address.
  have others := fieldName?_ne_id
  simp only [List.forall_mem_cons] at others
  obtain ⟨-, username, shown, mail, verified, avatar, -⟩ := others
  unfold userEntries
  by_cases unnamed : profile.displayName.isEmpty = true
  · cases profile.email <;> simp [unnamed, fieldName?_id, username, mail, verified, avatar]
  · cases profile.email <;> simp [unnamed, fieldName?_id, username, shown, mail, verified, avatar]

/-- The subject of a rule is handed on under the name that the rule gives, if this may stand in a
header. -/
theorem portrait_subject_id (grant : Grant) :
    (e.portrait m (.subject grant (m.activeUser? grant.subject))).1.values "remote-user-id" =
      (Http.fieldValue? (utf8 grant.subject)).toList := by
  have roles : (grantedEntries grant).filter
      (fun entry => Http.fieldName? entry.1 == some "remote-user-id") = [] := by
    apply List.filter_eq_nil_iff.2
    intro entry mem
    obtain ⟨id, -, rfl⟩ := List.mem_map.1 mem
    simpa using fieldName?_ne_id "remote-role" List.mem_cons_self
  rw [portrait_granted, values_withEntries, List.filter_append, roles, List.nil_append]
  cases known : m.activeUser? grant.subject with
  | none =>
      cases standing : Http.fieldValue? (utf8 grant.subject) <;> simp [standing, fieldName?_id]
  | some user =>
      obtain ⟨record, rfl, same, -, -⟩ := Memory.exists_of_activeUser? known
      have id : ((granted grant).profileIn m (m.withEmail record)).id = grant.subject := same
      simp only [filter_userEntries, id]
      cases standing : Http.fieldValue? (utf8 grant.subject) <;> simp [standing]

/-- A stranger whom a rule lets in is let through as the subject of the rule, unless the policy does
not let the request pass. -/
theorem decide_stranger (method : r.method ≠ "OPTIONS") (stranger : e.IsStranger now m r)
    (allowed : e.verdict r = .allow grant) :
    ((e.decide now r).run Memory.answer m).1.decision = .allow headers ↔
      e.Passes r (e.portrait m (.subject grant (m.activeUser? grant.subject))) headers := by
  have undenied : e.verdict r ≠ .deny := by
    rw [allowed]
    exact nofun
  have identified : e.identified m r (e.authentication now m r) (e.verdict r) =
      .ok (.subject grant (m.activeUser? grant.subject)) := by
    rw [allowed]
    rcases stranger with failed | failed <;> rw [failed] <;> rfl
  rw [decide, if_neg (by simpa using method), if_neg undenied, run_decideUndenied, identified]
  exact applyPolicy_eq_allow_iff

/-! ## Blank names -/

/-- The rules of a document let somebody in exactly where one of them is picked in the first entry
that covers the request, and under the name that this rule gives.  The name is not empty, but it is
blank where it is written so.  A stranger is let through under this name, as far as it may stand in
a header. -/
theorem named_by_rule (compiled : w.compile = .ok e.rules) :
    (∀ method url client bearer grant,
      (∃ entry, e.rules.entryFor? method url = some entry ∧
        entry.verdict client bearer = .allow grant) ↔
      ∃ entry rule, w.entries.find? (·.covers method url) = some entry ∧
        entry.Picks client bearer rule ∧ rule.subject = some grant.subject ∧
        rule.roles = grant.roles ∧ grant.subject ≠ "") ∧
    ((∀ entry ∈ w.entries, ∀ rule ∈ entry.rules, rule.deny = false →
        ∀ subject, rule.subject = some subject → Text.isBlankText subject = false) →
      ∀ method url client bearer entry grant, e.rules.entryFor? method url = some entry →
        entry.verdict client bearer = .allow grant → Text.isBlankText grant.subject = false) ∧
    (∀ now m r grant, r.method ≠ "OPTIONS" → e.IsStranger now m r → e.verdict r = .allow grant →
      (∀ headers, ((e.decide now r).run Memory.answer m).1.decision = .allow headers ↔
        e.Passes r (e.portrait m (.subject grant (m.activeUser? grant.subject))) headers) ∧
      (e.portrait m (.subject grant (m.activeUser? grant.subject))).1.values "remote-user-id" =
        (Http.fieldValue? (utf8 grant.subject)).toList) := by
  have granted : ∀ method url client bearer grant,
      (∃ entry, e.rules.entryFor? method url = some entry ∧
        entry.verdict client bearer = .allow grant) ↔
      ∃ entry rule, w.entries.find? (·.covers method url) = some entry ∧
        entry.Picks client bearer rule ∧ rule.subject = some grant.subject ∧
        rule.roles = grant.roles ∧ grant.subject ≠ "" := by
    intro method url client bearer grant
    have covered := WrittenRules.find?_of_compile compiled method url
    revert covered
    generalize w.entries.find? (·.covers method url) = written,
      e.rules.entryFor? method url = entry
    intro covered
    cases covered with
    | none => simp
    | some entryCompiled => simp [WrittenEntry.verdict_eq_allow_iff entryCompiled]
  refine ⟨granted, ?_, ?_⟩
  · intro named method url client bearer entry grant covers allowed
    obtain ⟨written, rule, first, picks, subject, -⟩ :=
      (granted method url client bearer grant).1 ⟨entry, covers, allowed⟩
    exact named written (List.mem_of_find?_eq_some first) rule picks.mem picks.allows _ subject
  · intro now m r grant method stranger allowed
    refine ⟨?_, portrait_subject_id grant⟩
    intro headers
    exact decide_stranger method stranger allowed

/-- The robot goes by a blank. -/
def blankRule : WrittenRule :=
  ⟨none, none, some "open", false, some " ", []⟩

/-- The pages of a house that the robot may read. -/
def blankEntry : WrittenEntry :=
  ⟨"^http://house/", [], none, [blankRule]⟩

/-- Nobody else reads anything without a login. -/
def blankRules : WrittenRules :=
  ⟨true, [blankEntry]⟩

/-- An engine with these rules and no policy. -/
def blankHouse : Engine :=
  { openHouse with rules := blankRules.compile.toOption.getD .empty }

/-- The robot is granted a blank and let through with a blank for its id. -/
theorem blankHouse_robot :
    blankRules.compile = .ok blankHouse.rules ∧
    (∃ entry, blankHouse.rules.entryFor? "GET" "http://house/page" = some entry ∧
      entry.verdict none (some "open") = .allow ⟨" ", []⟩) ∧
    ∃ headers, ((blankHouse.decide 1000 (robotRequest (.v4 0x0B000001))).run Memory.answer
        .empty).1.decision = .allow headers ∧
      headers.values "remote-user-id" = [utf8 " "] := by
  have compiled : blankRules.compile = .ok blankHouse.rules := by rfl
  obtain ⟨granted, -, through⟩ := named_by_rule compiled
  have picked : blankEntry.Picks none (some "open") blankRule :=
    WrittenEntry.picks_iff.2 ⟨by simp [blankEntry, blankRule], by decide +kernel⟩
  have covers : blankRules.entries.find? (·.covers "GET" "http://house/page") =
      some blankEntry := by
    decide +kernel
  have stranger : blankHouse.IsStranger 1000 Memory.empty (robotRequest (.v4 0x0B000001)) :=
    .inl rfl
  have allowed : blankHouse.verdict (robotRequest (.v4 0x0B000001)) = .allow ⟨" ", []⟩ := by
    decide +kernel
  obtain ⟨decided, values⟩ := through _ _ _ _ (by decide) stranger allowed
  exact ⟨compiled, (granted _ _ _ _ _).2 ⟨_, _, covers, picked, rfl, rfl, by decide⟩, _,
    (decided _).2 rfl, values.trans (by decide)⟩

end Engine

end Gatehouse.Forward
