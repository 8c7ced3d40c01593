import Gatehouse.Proofs.Access.SecondStep
import Gatehouse.Proofs.Access.Success
import Gatehouse.Proofs.Credential.RecoveryCode

/-!
# Recovery codes - Single use

Any number of second steps are served at the same time against one store in memory, while other
requests change the store and recovery codes are added.  A code is taken with a single query, so
however the steps are interleaved, every session that begins with a code uses up one that was there
at first or was added while it was absent.

Main definitions:

- `Attempt`: a second step that is being served.
- `Attempt.redeems`: the second step has begun a session with a recovery code.
- `Crowd`, `Crowd.Step` and `Crowd.Reached`: the second steps that are being served, in any order.

Main results:

- Theorem `Attempt.Served.taken_cases`: which code a second step has taken so far.
- Theorem `Crowd.Reached.sound`: the codes taken and left are no more than those there were.
- Theorem `Crowd.recoveryCodes_single_use`: no code is used twice, whatever its spelling.
-/

namespace Gatehouse.Access

open Credential.RecoveryCode
open Http (Headers)
open Store (Action Exchange Memory Query Reply)
open Token (Claims Time)

variable {s : Service} {m : Memory}

/-! ## Second steps -/

/-- A second step that is being served: what it has asked and was told so far, and how it goes on. -/
structure Attempt where
  occasion : Occasion
  request : LoginRequest
  token : String
  code : String
  /-- It is the second step that is requested. -/
  presents : request.credential = .secondFactor token code
  current : Option Principal
  told : List Exchange
  rest : Action (Except Error LoginOutcome × Headers)

namespace Attempt

/-- A second step that has not asked anything yet. -/
def start (s : Service) (o : Occasion) (request : LoginRequest) {token code : String}
    (presents : request.credential = .secondFactor token code) (current : Option Principal) :
    Attempt :=
  ⟨o, request, token, code, presents, current, [], (s.login o request current).run.run .empty⟩

/-- The second step after a query was answered. -/
def answered (x : Attempt) (q : Query)
    (next : Reply q → Action (Except Error LoginOutcome × Headers)) (reply : Reply q) : Attempt :=
  { x with told := x.told ++ [⟨q, reply⟩], rest := next reply }

/-- The recovery codes that the second step has taken, each by its user and its digest. -/
def taken (x : Attempt) : List (String × String) :=
  x.told.filterMap Exchange.taken?

/-- The code is accepted for the secret that the second step has read. -/
def accepted (s : Service) (x : Attempt) : Bool :=
  s.accepts x.occasion.now x.code x.told

/-- The queries that end the session that the second step came with. -/
def ending (s : Service) (x : Attempt) : List Query :=
  s.endingChanges ((x.current.filter (·.source == .session)).map (·.claims))

/-- The second step has begun a session of the user, and the code with the digest, which was not
accepted for the secret of the user, is the one that it presented. -/
def redeems (s : Service) (code : String × String) (x : Attempt) : Bool :=
  match x.rest with
  | .done (.ok (.established session), _) =>
    session.userId == code.1 && digest? x.code == some code.2 && !x.accepted s
  | _ => false

/-- However the second step goes on, its exchanges are those of a second step. -/
def Served (s : Service) (x : Attempt) : Prop :=
  x.rest.Tells Memory.answer fun told r =>
    SecondStepTells s x.occasion.now x.token x.code (x.ending s) (x.told ++ told) r.1

variable {x : Attempt} {q : Query} {next : Reply q → Action (Except Error LoginOutcome × Headers)}

theorem served_start {o : Occasion} {request : LoginRequest} {token code : String}
    (presents : request.credential = .secondFactor token code) (current : Option Principal) :
    (start s o request presents current).Served s :=
  (Service.login_tells presents current).ends .empty

theorem Served.answered (h : x.Served s) (waits : x.rest = .query q next) (m : Memory) :
    (x.answered q next (m.answer q).1).Served s := by
  unfold Served at h
  rw [waits] at h
  refine (h m).mono fun told r goesOn => ?_
  show SecondStepTells s x.occasion.now x.token x.code (x.ending s) (x.told ++ [_] ++ told) r.1
  rw [List.append_assoc]
  exact goesOn

/-- With a query, a second step takes one more code or none. -/
theorem taken_answered (reply : Reply q) :
    (x.answered q next reply).taken = x.taken ++ (Exchange.taken? ⟨q, reply⟩).toList := by
  have last : [(⟨q, reply⟩ : Exchange)].filterMap Exchange.taken? =
      (Exchange.taken? ⟨q, reply⟩).toList := by
    cases took : Exchange.taken? ⟨q, reply⟩ <;> simp [took]
  rw [taken, Attempt.answered, List.filterMap_append, last, taken]

/-- A second step has taken nothing so far, or just the code that it presented, from the user whom its
token names and not before the code was refused as a one-time code. -/
theorem Served.taken_cases (h : x.Served s) :
    x.taken = [] ∨ ∃ userId digest, Took s x.occasion.now x.token x.code x.told userId digest := by
  obtain ⟨told, r, ended⟩ := h.exists_completion Memory.empty
  rcases ended.taken_cases with ⟨untaken, -⟩ | ⟨userId, digest, took, -⟩
  · rw [List.filterMap_append, List.append_eq_nil_iff] at untaken
    exact .inl untaken.1
  · obtain ⟨only, owner, read, needed⟩ := took
    rw [List.filterMap_append] at only
    rw [Service.accepts, List.filterMap_append, List.any_append, Bool.or_eq_false_iff] at needed
    rcases List.append_eq_singleton_iff.1 only with ⟨untaken, -⟩ | ⟨took, -⟩
    · exact .inl untaken
    · exact .inr ⟨userId, digest, took, owner, read, needed.1⟩

/-- Who has the code accepted takes none. -/
theorem Served.taken_of_accepted (h : x.Served s) (accepted : x.accepted s = true) :
    x.taken = [] := by
  rcases h.taken_cases with untaken | ⟨userId, digest, took⟩
  · exact untaken
  · cases accepted.symm.trans took.needed

/-- The exchanges of a second step that has ended. -/
theorem Served.ended (h : x.Served s) {r : Except Error LoginOutcome} {headers : Headers}
    (rest : x.rest = .done (r, headers)) :
    SecondStepTells s x.occasion.now x.token x.code (x.ending s) x.told r := by
  unfold Served at h
  rw [rest] at h
  have ended : SecondStepTells s x.occasion.now x.token x.code (x.ending s) (x.told ++ []) r := h
  rwa [List.append_nil] at ended

/-- Who is refused has taken no code. -/
theorem Served.taken_of_refused (h : x.Served s) {headers : Headers}
    (refused : x.rest = .done (.error .unauthenticated, headers)) : x.taken = [] := by
  rcases (h.ended refused).taken_cases with ⟨untaken, -⟩ | ⟨userId, digest, -, passes, -⟩
  · exact untaken
  · exact absurd rfl passes

/-- Who redeems a code has taken it. -/
theorem Served.taken_of_redeems (h : x.Served s) {code : String × String}
    (redeems : x.redeems s code = true) : x.taken = [code] := by
  unfold Attempt.redeems at redeems
  split at redeems
  · rename_i session headers rest
    simp only [Bool.and_eq_true, beq_iff_eq, Bool.not_eq_true'] at redeems
    obtain ⟨⟨owner, read⟩, refuses⟩ := redeems
    rcases (h.ended rest).taken_cases with ⟨-, accepted⟩ | ⟨userId, digest, took, -, same⟩
    · cases (accepted session rfl).symm.trans refuses
    · obtain rfl := Option.some.inj (read.symm.trans took.read)
      rw [taken, took.only, ← same session rfl, owner]
  · cases redeems

/-- What a query of a second step does to the store. -/
theorem Served.effect (h : x.Served s) (waits : x.rest = .query q next) (m : Memory) :
    StepEffect (x.ending s) m (Exchange.taken? ⟨q, (m.answer q).1⟩) (m.answer q).2 := by
  obtain ⟨told, r, ended⟩ := (h.answered waits m).exists_completion m
  exact ended.effect (List.mem_append_left _ (List.mem_append_right _ List.mem_cons_self))

end Attempt

/-! ## Second steps that are served at the same time -/

/-- The store, the second steps that are being served or have been served, and the recovery codes
that were added while they were absent. -/
structure Crowd where
  memory : Memory
  attempts : List Attempt
  added : List (String × String)

namespace Crowd

/-- A second step arrives or asks its next query; another request asks a query; the records are kept
up; or a recovery code is added. -/
inductive Step (s : Service) : Crowd → Crowd → Prop where
  | arrive {crowd : Crowd} (o : Occasion) (request : LoginRequest) {token code : String}
      (presents : request.credential = .secondFactor token code) (current : Option Principal) :
      Step s crowd { crowd with attempts := .start s o request presents current :: crowd.attempts }
  | ask {memory : Memory} {before after : List Attempt} {added : List (String × String)}
      {x : Attempt} {q : Query} {next : Reply q → Action (Except Error LoginOutcome × Headers)}
      (waits : x.rest = .query q next) :
      Step s ⟨memory, before ++ x :: after, added⟩
        ⟨(memory.answer q).2, before ++ x.answered q next (memory.answer q).1 :: after, added⟩
  | other {crowd : Crowd} (q : Query) :
      Step s crowd { crowd with memory := (crowd.memory.answer q).2 }
  | upkeep {crowd : Crowd} {memory : Memory}
      (kept : memory.recoveryCodes = crowd.memory.recoveryCodes) :
      Step s crowd { crowd with memory }
  | add {crowd : Crowd} (userId digest : String) :
      Step s crowd { crowd with
        memory := crowd.memory.addRecoveryCode userId digest
        added := if digest ∈ crowd.memory.recoveryDigests userId then crowd.added
          else (userId, digest) :: crowd.added }

/-- The crowds that come about from a store at which there are no second steps. -/
inductive Reached (s : Service) (m : Memory) : Crowd → Prop where
  | start : Reached s m ⟨m, [], []⟩
  | step {crowd crowd' : Crowd} (before : Reached s m crowd) (step : Step s crowd crowd') :
      Reached s m crowd'

/-- What holds in every crowd that comes about from the store `m`. -/
structure Sound (s : Service) (m : Memory) (crowd : Crowd) : Prop where
  served : ∀ x ∈ crowd.attempts, x.Served s
  /-- No more codes have been taken and are left than there were and have been added. -/
  balance : ∀ code, (crowd.attempts.flatMap (·.taken)).count code + crowd.memory.codesLeft code ≤
    crowd.added.count code + m.codesLeft code

variable {crowd crowd' : Crowd}

theorem Sound.start (s : Service) (m : Memory) : Sound s m ⟨m, [], []⟩ where
  served _ h := absurd h List.not_mem_nil
  balance _ := Nat.le_refl _

/-- Every step keeps the crowd sound. -/
theorem Sound.step (sound : Sound s m crowd) (step : Step s crowd crowd') : Sound s m crowd' := by
  cases step with
  | arrive o request presents current =>
      exact ⟨List.forall_mem_cons.2 ⟨Attempt.served_start presents current, sound.served⟩,
        sound.balance⟩
  | @ask memory before after added x q next waits =>
      have served := List.forall_mem_append.1 sound.served
      obtain ⟨servedBefore, servedAfter⟩ := served
      rw [List.forall_mem_cons] at servedAfter
      refine ⟨List.forall_mem_append.2 ⟨servedBefore, List.forall_mem_cons.2
        ⟨servedAfter.1.answered waits memory, servedAfter.2⟩⟩, fun code => ?_⟩
      have answered := memory.codesLeft_answer q code
      have balance := sound.balance code
      simp only [List.flatMap_append, List.flatMap_cons, List.count_append,
        Attempt.taken_answered] at balance ⊢
      omega
  | other q =>
      refine ⟨sound.served, fun code => ?_⟩
      have answered := crowd.memory.codesLeft_answer q code
      have balance := sound.balance code
      simp only
      omega
  | upkeep kept =>
      refine ⟨sound.served, fun code => ?_⟩
      rw [Memory.codesLeft_congr kept]
      exact sound.balance code
  | add userId digest =>
      refine ⟨sound.served, fun code => ?_⟩
      have balance := sound.balance code
      simp only [Memory.codesLeft_addRecoveryCode]
      split
      · exact balance
      · simp only [List.count_cons, List.count_nil]
        omega

theorem Reached.sound (h : Reached s m crowd) : Sound s m crowd := by
  induction h with
  | start => exact Sound.start s m
  | step before step ih => exact ih.step step

/-- Attempts that each have taken a code are no more than the times that it was taken. -/
theorem countP_redeems_le {attempts : List Attempt} (served : ∀ x ∈ attempts, x.Served s)
    (code : String × String) :
    attempts.countP (·.redeems s code) ≤ (attempts.flatMap (·.taken)).count code := by
  induction attempts with
  | nil => exact Nat.le_refl _
  | cons x attempts ih =>
      rw [List.forall_mem_cons] at served
      have others := ih served.2
      rw [List.countP_cons, List.flatMap_cons, List.count_append]
      split
      · rename_i redeems
        rw [served.1.taken_of_redeems redeems, List.count_singleton_self]
        omega
      · omega

/-- No recovery code is used twice.

Of one code, no more sessions have begun than the times it was added while it was absent, and one if
it was there at the start.  Second steps whose code is accepted as a one-time code and those that are
refused take no code, and whoever begins a session with a code has taken just that one.  What is taken
is the code that was presented, from the user whom the token names, and only after it was refused as a
one-time code.  A query of a second step changes nothing in the store but the rows that end the
session that it came with and the one code that it takes.  Two texts are one code when they are
spellings of it, and only then where the hash does not collide on them; and a text without ASCII
letters and digits is none. -/
theorem recoveryCodes_single_use (reached : Reached s m crowd) :
    (∀ code, crowd.attempts.countP (·.redeems s code) ≤ crowd.added.count code + m.codesLeft code) ∧
    (∀ x ∈ crowd.attempts,
      (x.accepted s = true → x.taken = []) ∧
      (∀ headers, x.rest = .done (.error .unauthenticated, headers) → x.taken = []) ∧
      (∀ code, x.redeems s code = true → x.taken = [code]) ∧
      (x.taken = [] ∨ ∃ userId digest,
        Took s x.occasion.now x.token x.code x.told userId digest)) ∧
    (∀ before x after q next, crowd.attempts = before ++ x :: after → x.rest = .query q next →
      ∃ took, (x.answered q next (crowd.memory.answer q).1).taken = x.taken ++ took.toList ∧
        StepEffect (x.ending s) crowd.memory took (crowd.memory.answer q).2) ∧
    (∀ code code' : String,
      (SameCode code.toList code'.toList → digest? code = digest? code') ∧
      ((Token.sha256Hex (normalized code) = Token.sha256Hex (normalized code') →
          normalized code = normalized code') →
        digest? code = digest? code' → SameCode code.toList code'.toList)) ∧
    (∀ code, (∀ c ∈ code.toList, c.isAlphanum = false) → digest? code = none) := by
  have sound := reached.sound
  refine ⟨fun code => ?_, fun x hx => ?_, ?_, fun code code' => ⟨?_, ?_⟩, fun code blank => ?_⟩
  · have taken := countP_redeems_le sound.served code
    have balance := sound.balance code
    omega
  · have served := sound.served x hx
    exact ⟨served.taken_of_accepted, fun headers => served.taken_of_refused,
      fun code => served.taken_of_redeems, served.taken_cases⟩
  · intro before x after q next attempts waits
    have served := sound.served x (attempts ▸ by simp)
    exact ⟨_, Attempt.taken_answered _, served.effect waits crowd.memory⟩
  · exact SameCode.digest?_eq
  · exact fun collisionFree => (digest?_eq_iff collisionFree).1
  · exact digest?_eq_none_iff.2 blank

/-! ## One code in two spellings -/

/-- A second step can go on to its end without the others. -/
theorem Reached.finish {memory : Memory} {before after : List Attempt}
    {added : List (String × String)} {x : Attempt}
    (h : Reached s m ⟨memory, before ++ x :: after, added⟩) :
    ∃ told, Reached s m ⟨(x.rest.run Memory.answer memory).2,
      before ++ { x with told, rest := .done (x.rest.run Memory.answer memory).1 } :: after,
        added⟩ := by
  obtain ⟨o, request, token, code, presents, current, told, rest⟩ := x
  induction rest generalizing told memory with
  | done r => exact ⟨told, h⟩
  | query q next ih => exact ih _ _ (h.step (.ask rfl))

/-- A second step with a good token first asks for its user. -/
theorem exists_rest_start {o : Occasion} {request : LoginRequest} {token code : String}
    {claims : Claims} (presents : request.credential = .secondFactor token code)
    (verified : Token.verify s.config.key o.now token = .ok claims)
    (scope : claims.hasScope .pending = true) :
    ∃ next, (Attempt.start s o request presents none).rest =
      .query (.userById claims.subject) next := by
  have user : ∃ next, s.secondFactorUser o.now token code =
      Flow.activeUser claims.subject >>= next := by
    unfold Service.secondFactorUser
    simp only [verified, scope, Bool.not_true, Bool.false_eq_true, if_false]
    exact ⟨_, rfl⟩
  obtain ⟨next, user⟩ := user
  unfold Attempt.start Service.login
  simp only [presents, user]
  exact ⟨_, rfl⟩

/-- Alice presents one of her recovery codes. -/
def aliceRecovery (token code : String) : LoginRequest :=
  ⟨.secondFactor token code, 0, true, none⟩

/-- One code is right for everybody. -/
theorem smallService_accepts {now : Time} {code : String} (other : code ≠ "000000")
    (told : List Exchange) : smallService.accepts now code told = false := by
  refine List.any_eq_false.2 fun user _ => ?_
  cases user.totpSecret <;> simp [smallService, other]

/-- When Alice presents her recovery code, and the ids of her tokens. -/
def aliceRecoveryTime : Occasion :=
  ⟨1200, "b", "r", "q", "k", []⟩

/-- Alice, whose only recovery code is `AB12`, presents it twice, in two spellings.  The one is served
after the other has read her record, and only one of them begins a session with the code. -/
theorem aliceRecovery_single_use :
    ∃ digest crowd, digest? "ab-12" = some digest ∧ digest? "AB12" = some digest ∧
      Reached smallService ((smallStore (some "JBSWY3DP")).addRecoveryCode "1" digest) crowd ∧
      crowd.attempts.map (·.code) = ["AB12", "ab-12"] ∧
      (∀ x ∈ crowd.attempts, ∃ r, x.rest = .done r) ∧
      crowd.attempts.countP (·.redeems smallService ("1", digest)) = 1 := by
  have spelled : digest? "ab-12" = some (Token.sha256Hex "AB12") :=
    digest?_of_normalized (by decide) (by decide)
  have read : digest? "AB12" = some (Token.sha256Hex "AB12") :=
    digest?_of_normalized (by decide) (by decide)
  generalize Token.sha256Hex "AB12" = digest at spelled read
  let store := (smallStore (some "JBSWY3DP")).addRecoveryCode "1" digest
  have left : digest ∈ store.recoveryDigests "1" := Memory.mem_recoveryDigests_added.2 (.inr rfl)
  obtain ⟨token, signed⟩ := Token.exists_sign (a := smallService.config.algorithm)
    smallService_canIssue.secret
    (Token.pendingClaims smallService.config 1000 "p" (alice (some "JBSWY3DP")))
  have verified := Token.verify_newClaims (t := aliceRecoveryTime.now) (by decide) (by decide)
    signed (by decide) (by decide)
  have presents (code : String) :
      (aliceRecovery token code).credential = .secondFactor token code := rfl
  let first := Attempt.start smallService aliceRecoveryTime _ (presents "ab-12") none
  let second := Attempt.start smallService aliceRecoveryTime _ (presents "AB12") none
  -- The first one reads the record of Alice.
  obtain ⟨next, waits⟩ := exists_rest_start (s := smallService) (o := aliceRecoveryTime)
    (presents "ab-12") verified rfl
  have arrived : Reached smallService store ⟨store, [] ++ first :: [], []⟩ :=
    Reached.start.step (.arrive ..)
  have asked := arrived.step (.ask waits)
  -- The second one arrives, is served, and begins a session.
  have overtakes : Reached smallService store ⟨store, [] ++ second :: [_], []⟩ :=
    asked.step (.arrive ..)
  obtain ⟨session, out, ended, owner⟩ := Service.login_of_passed smallService_canIssue .empty
    (o := aliceRecoveryTime) (presents "AB12")
    (Service.runOn_secondFactorUser_of_recoveryCode (m := store) verified rfl
      (smallStore_activeUser? _) rfl (by decide) rfl read left)
  obtain ⟨told, served⟩ := overtakes.finish
  have established : (second.rest.run Memory.answer store).1 =
      (.ok (.established session), out) :=
    Prod.ext (congrArg (·.1) ended) (congrArg (·.2.1) ended)
  rw [established] at served
  -- The first one goes on.
  have overtaken : Reached smallService store ⟨_, [_] ++ _ :: [], []⟩ := served
  obtain ⟨told', reached⟩ := overtaken.finish
  refine ⟨digest, _, spelled, read, reached, rfl, ?_, ?_⟩
  · exact List.forall_mem_cons.2 ⟨⟨_, rfl⟩, List.forall_mem_singleton.2 ⟨_, rfl⟩⟩
  · refine Nat.le_antisymm ?_ ?_
    · refine Nat.le_trans ((recoveryCodes_single_use reached).1 ("1", digest)) ?_
      simp [Memory.codesLeft, left]
    · refine List.countP_pos_iff.2 ⟨_, List.mem_cons_self, ?_⟩
      show (session.userId == "1" && digest? "AB12" == some digest &&
        !smallService.accepts 1200 "AB12" told) = true
      rw [owner, read, smallService_accepts (by decide)]
      simp [alice]

end Crowd

end Gatehouse.Access
