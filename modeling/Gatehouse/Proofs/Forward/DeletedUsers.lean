import Gatehouse.Proofs.Forward.Subjects

/-!
# Deciding about delegated requests - Users who are deleted

The record of a deleted user stays in the store.  Nobody is taken for such a user by a credential: a
request with a session or an API token of the user is denied.  A rule that lets strangers in does not
care: its subject need not be a user at all, and it goes by the name of the subject also where this is
the id of a deleted user.

Main definitions:

- `Memory.IsDeleted`: the record of a user is marked deleted.
- `Engine.LetsThroughAs`: a request is let through under an id.

Main results:

- Theorem `Engine.decide_of_deleted`: a request with a credential of a deleted user is denied.
- Theorem `Engine.letsThroughAs_deleted_iff`: when a request is let through under the id of a deleted
  user.
- Theorem `Engine.deleted_users_named`: what becomes of deleted users without a policy.
-/

namespace Gatehouse.Store.Memory

variable {m : Memory} {userId : String}

/-- The record of the user is marked deleted. -/
def IsDeleted (m : Memory) (userId : String) : Prop :=
  ∃ record, m.users.find? userId = some record ∧ record.deleted = true

/-- Deleted users are not active. -/
theorem IsDeleted.activeUser?_eq_none (h : m.IsDeleted userId) : m.activeUser? userId = none := by
  obtain ⟨record, stored, deleted⟩ := h
  simp [activeUser?, stored, withEmail, Option.filter, deleted]

/-- A record that is not marked deleted is that of another user. -/
theorem IsDeleted.ne_id {record : User} {id : String} (h : m.IsDeleted userId)
    (stored : m.users.find? id = some record) (active : record.deleted = false) :
    record.id ≠ userId := by
  rintro rfl
  obtain ⟨other, found, deleted⟩ := h
  rw [Register.nameOf_of_find? stored, stored] at found
  cases found
  cases active.symm.trans deleted

end Gatehouse.Store.Memory

namespace Gatehouse.Forward.Engine

open Http (Headers)
open Store (Memory User)

variable {e : Engine} {now : Token.Time} {m : Memory} {r : Request} {userId name : String}
  {grant : Grant} {headers : Headers}

/-- The request is let through, and the proxy is told the id for that of its user. -/
def LetsThroughAs (e : Engine) (now : Token.Time) (m : Memory) (r : Request)
    (userId : String) : Prop :=
  ∃ headers, ((e.decide now r).run Memory.answer m).1.decision = .allow headers ∧
    utf8 userId ∈ headers.values "remote-user-id"

/-! ## With a credential -/

/-- A request with a credential of a deleted user is denied, whatever the policy would say. -/
theorem decide_of_deleted {p : Access.Principal} (method : r.method ≠ "OPTIONS")
    (authentic : e.authentication now m r = .ok p) (deleted : m.IsDeleted p.userId) :
    ((e.decide now r).run Memory.answer m).1 = .plain (denial r 403 .empty) := by
  rw [decide, if_neg (by simpa using method)]
  split
  · rfl
  · rw [run_decideUndenied, authentic]
    simp only [identified, deleted.activeUser?_eq_none]

/-! ## With a rule -/

/-- A record tells no other id than its own. -/
theorem id_of_attests {record : User} (h : e.Attests m record "remote-user-id" userId) :
    record.id = userId := by
  generalize named : "remote-user-id" = name at h
  cases h with
  | id => rfl
  | username | displayName | mail | mailVerified | avatar => exact absurd named (by decide)

/-- The id of a deleted user is only told of a stranger to whom a rule gives it. -/
theorem letsIn_of_vouches (deleted : m.IsDeleted userId)
    (h : e.Vouches now m r "remote-user-id" userId) :
    ∃ grant, e.LetsIn now m r grant ∧ grant.subject = userId := by
  generalize named : "remote-user-id" = name at h
  cases h with
  | user _ stored active attests | subject _ stored active attests =>
      exact absurd (id_of_attests (named ▸ attests)) (deleted.ne_id stored active)
  | role | grantedRole => exact absurd named (by decide)
  | grantedName letsIn unknown => exact ⟨_, letsIn, rfl⟩

/-- A stranger to whom a rule gives the id of a deleted user is described by the rule alone. -/
theorem portrait_of_deleted (deleted : m.IsDeleted grant.subject) :
    (e.portrait m (.subject grant (m.activeUser? grant.subject))).1 =
      withEntries .empty (grantedEntries grant ++ [("remote-user-id", grant.subject)]) := by
  rw [portrait_granted, deleted.activeUser?_eq_none]

/-- Without a policy, a request is let through under the id of a deleted user exactly when a stranger
makes it and the rule that lets it in gives this id, as far as the id may stand in a header. -/
theorem letsThroughAs_deleted_iff (free : e.policy = none) (deleted : m.IsDeleted userId) :
    e.LetsThroughAs now m r userId ↔
      r.method ≠ "OPTIONS" ∧ e.IsStranger now m r ∧
        (∃ roles, e.verdict r = .allow ⟨userId, roles⟩) ∧
        (Http.fieldValue? (utf8 userId)).isSome = true := by
  have passes {grant : Grant} (method : r.method ≠ "OPTIONS") (stranger : e.IsStranger now m r)
      (allowed : e.verdict r = .allow grant) :
      ((e.decide now r).run Memory.answer m).1.decision =
        .allow (e.portrait m (.subject grant (m.activeUser? grant.subject))).1 := by
    rw [decide_stranger method stranger allowed, Passes, free]
  constructor
  · rintro ⟨headers, allowed, told⟩
    have method : r.method ≠ "OPTIONS" := by
      intro options
      rw [decide, if_pos (by simpa using options)] at allowed
      cases allowed
      cases told
    obtain ⟨⟨name, value⟩, line, rfl⟩ := List.mem_map.1 told
    obtain ⟨mem, named⟩ := List.mem_filter.1 line
    obtain rfl : name = "remote-user-id" := by simpa using named
    obtain ⟨text, vouched, same⟩ := vouches_of_allow free allowed _ mem
    obtain rfl : userId = text := utf8_injective same
    obtain ⟨grant, letsIn, rfl⟩ := letsIn_of_vouches deleted vouched
    refine ⟨method, letsIn.stranger, ⟨grant.roles, letsIn.verdict⟩, ?_⟩
    rw [passes method letsIn.stranger letsIn.verdict] at allowed
    cases allowed
    rw [portrait_subject_id, Option.mem_toList] at told
    exact Option.isSome_of_mem told
  · rintro ⟨method, stranger, ⟨roles, allowed⟩, standing⟩
    refine ⟨_, passes method stranger allowed, ?_⟩
    obtain ⟨value, made⟩ := Option.isSome_iff_exists.1 standing
    rw [portrait_subject_id, made, Http.eq_of_fieldValue? made]
    exact List.mem_singleton_self _

/-- What becomes of deleted users where no policy is asked.  No credential stands for one of them: the
request is denied.  A stranger whom a rule lets in under the id of a deleted user is let through under
it, and of this user nothing but the id is told; there is no other way to be let through under the id
of a deleted user. -/
theorem deleted_users_named (free : e.policy = none) :
    (∀ userId, m.IsDeleted userId →
      (e.LetsThroughAs now m r userId ↔
        r.method ≠ "OPTIONS" ∧ e.IsStranger now m r ∧
          (∃ roles, e.verdict r = .allow ⟨userId, roles⟩) ∧
          (Http.fieldValue? (utf8 userId)).isSome = true)) ∧
    (∀ p, r.method ≠ "OPTIONS" → e.authentication now m r = .ok p → m.IsDeleted p.userId →
      ((e.decide now r).run Memory.answer m).1.decision = denial r 403 .empty) ∧
    (∀ grant headers, r.method ≠ "OPTIONS" → e.IsStranger now m r → e.verdict r = .allow grant →
      m.IsDeleted grant.subject →
      (((e.decide now r).run Memory.answer m).1.decision = .allow headers ↔
        headers = withEntries .empty
          (grantedEntries grant ++ [("remote-user-id", grant.subject)]))) := by
  refine ⟨fun userId deleted => letsThroughAs_deleted_iff free deleted, ?_, ?_⟩
  · intro p method authentic deleted
    rw [decide_of_deleted method authentic deleted]
    rfl
  · intro grant headers method stranger allowed deleted
    rw [decide_stranger method stranger allowed, Passes, free]
    simp only [portrait_of_deleted deleted]

/-- Alice's robot reads the pages of a house in her name. -/
def aliceRules : WrittenRules :=
  ⟨true, [⟨"^http://house/", [], none,
    [⟨none, none, some "open", false, some "1", ["reader"]⟩]⟩]⟩

/-- An engine with these rules and no policy. -/
def aliceHouse : Engine :=
  { openHouse with rules := aliceRules.compile.toOption.getD .empty }

/-- A store in which Alice is deleted. -/
def deletedAlice : Memory :=
  Memory.empty.putUser { Access.alice none with deleted := true }

/-- After Alice was deleted her robot is still let through in her name. -/
theorem aliceHouse_robot :
    aliceHouse.policy = none ∧ deletedAlice.IsDeleted "1" ∧
    aliceHouse.LetsThroughAs 1000 deletedAlice (robotRequest (.v4 0x0B000001)) "1" := by
  have deleted : deletedAlice.IsDeleted "1" := ⟨_, rfl, rfl⟩
  have stranger : aliceHouse.IsStranger 1000 deletedAlice (robotRequest (.v4 0x0B000001)) :=
    .inl rfl
  have allowed : aliceHouse.verdict (robotRequest (.v4 0x0B000001)) = .allow ⟨"1", ["reader"]⟩ := by
    decide +kernel
  obtain ⟨named, -, -⟩ := @deleted_users_named aliceHouse 1000 deletedAlice
    (robotRequest (.v4 0x0B000001)) rfl
  exact ⟨rfl, deleted, (named "1" deleted).2 ⟨by decide, stranger, ⟨_, allowed⟩, by decide⟩⟩

end Gatehouse.Forward.Engine
