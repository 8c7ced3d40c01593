import Gatehouse.Proofs.Access.Interference
import Gatehouse.Proofs.Access.Success

/-!
# Logouts that fail

A logout puts two rows into the ledger, one after the other: that of the access token and then that
of the refresh token it was derived from.  Any of the two can be refused by the store.  When the
second one is, the access token is of no use any more, not even for another logout, and the refresh
token is as good as before.

Nothing is known here of the store but how its ledger behaves.

Main definitions:

- `KeepsLedger`: what is relied on about the ledger of a store.
- `Service.LogoutEnds`: how far a logout has come.
- `Service.Strands`: when a refresh token is left without anybody who could end it.
- `Memory.answerFailing`: the store in memory, of which single writes to the ledger fail.

Main results:

- Theorem `Service.logoutEnds`: how far a logout has come.
- Theorem `Service.logout_repeatable_iff`: when a logout that fails can be repeated.
- Theorem `Memory.keepsLedger_answerFailing`: a store that fails at any writes keeps its ledger.
-/

namespace Gatehouse

namespace Store

/-- What is relied on about a ledger, which `rejected` shows: who looks is told what is in it, a row
that is taken stands beside all others, and a row that is refused leaves no trace. -/
structure KeepsLedger {σ : Type} (answer : σ → (q : Query) → Reply q × σ)
    (rejected : σ → String → Bool) : Prop where
  told (st : σ) (id : String) : (answer st (.isRejected id)).1 = .ok (rejected st id)
  looked (st : σ) (id : String) : rejected (answer st (.isRejected id)).2 = rejected st
  taken (st : σ) (row : Rejection) (id : String) : (answer st (.reject row)).1 = .ok () →
    rejected (answer st (.reject row)).2 id = (id == row.tokenId || rejected st id)
  refused (st : σ) (row : Rejection) (f : Failure) : (answer st (.reject row)).1 = .error f →
    rejected (answer st (.reject row)).2 = rejected st

end Store

namespace Access

open Http (Headers)
open Store (Action Failure KeepsLedger Memory Query Rejection Reply)
open Token (Claims Time)

variable {σ : Type} {answer : σ → (q : Query) → Reply q × σ} {rejected : σ → String → Bool}
  {s : Service} {p : Principal} {parent text : String} {st after : σ}

/-! ## Asking any store -/

/-- A flow that asks for something that has to be there goes on with what it is told. -/
theorem Flow.run_fetch_bind {α β : Type} {x : Store.Asking α} {f : α → Flow β} {a : α}
    (told : (x.run.run answer st).1 = .ok a) :
    (Flow.fetch x >>= f).run.run answer st = (f a).run.run answer (x.run.run answer st).2 := by
  have unfolded : (Flow.fetch x >>= f).run.run answer st = _ :=
    Action.run_bind answer (Flow.fetch x).run _ st
  have fetched : (Flow.fetch x).run.run answer st = _ := Action.run_bind answer x.run _ st
  rw [unfolded, fetched, told]
  rfl

/-- A flow that asks for something that has to be there ends with the failure that it is told. -/
theorem CookieFlow.run_fetch {α : Type} {x : Store.Asking α} (out : Headers) :
    ((Flow.withCookies (Flow.fetch x)).run.run out).run answer st =
      (match (x.run.run answer st).1 with
        | .ok a => (.ok a, out)
        | .error f => (.error (.ofStore f), out), (x.run.run answer st).2) := by
  have unfolded : ((Flow.withCookies (Flow.fetch x)).run.run out).run answer st = _ :=
    Action.run_bind answer (Flow.fetch x).run _ st
  have fetched : (Flow.fetch x).run.run answer st = _ := Action.run_bind answer x.run _ st
  rw [unfolded, fetched]
  cases (x.run.run answer st).1 <;> rfl

/-- What follows a cookie flow starts in the state and with the header that the flow leaves. -/
theorem CookieFlow.run_bind {α β : Type} (x : CookieFlow α) (f : α → CookieFlow β) (out : Headers) :
    ((x >>= f).run.run out).run answer st =
      match (x.run.run out).run answer st with
      | ((.ok a, out'), st') => ((f a).run.run out').run answer st'
      | ((.error e, out'), st') => ((.error e, out'), st') := by
  have unfolded : ((x >>= f).run.run out).run answer st = _ :=
    Action.run_bind answer (x.run.run out) _ st
  rw [unfolded]
  rcases (x.run.run out).run answer st with ⟨⟨r, out'⟩, st'⟩
  cases r <;> rfl

/-- Is the token, or the one that it was derived from, among those that are rejected? -/
def Ledger.covers (rejected : String → Bool) (claims : Claims) : Bool :=
  rejected claims.id || claims.parent?.any rejected

/-- The ledger tells whether a token is rejected. -/
theorem Ledger.run_isRejected (law : KeepsLedger answer rejected) (claims : Claims) (st : σ) :
    ((isRejected claims).run.run answer st).1 = .ok (covers (rejected st) claims) := by
  have unfolded : (isRejected claims).run.run answer st = _ :=
    Action.run_bind answer (Action.ask (.isRejected claims.id)) _ st
  have own := law.told st claims.id
  rw [unfolded, Action.run_ask, own]
  unfold covers
  cases rejected st claims.id with
  | true => rfl
  | false =>
      cases claims.parent? with
      | none => rfl
      | some parent =>
          have next := law.told (answer st (.isRejected claims.id)).2 parent
          rw [law.looked] at next
          exact next

namespace Service

/-- A signed token that is verified and is for access is accepted unless it is rejected. -/
theorem run_authenticate (law : KeepsLedger answer rejected) {now : Time} {claims : Claims}
    (verified : Token.verify s.config.key now text = .ok claims)
    (scope : claims.hasScope .access = true) (st : σ) :
    ((s.authenticate now (.signed text)).run.run answer st).1 =
      if Ledger.covers (rejected st) claims then .error .unauthenticated
      else .ok ⟨claims, .session⟩ := by
  have asked := Ledger.run_isRejected law claims st
  unfold authenticate authenticateSigned
  simp only [verified, scope, Bool.not_true, Bool.false_eq_true, if_false]
  rw [Flow.run_fetch_bind asked]
  cases Ledger.covers (rejected st) claims <;> rfl

/-! ## How far a logout has come -/

/-- The row of the access token, and what the store makes of it. -/
def firstRow (answer : σ → (q : Query) → Reply q × σ) (p : Principal) (st : σ) :
    Except Failure Unit × σ :=
  answer st (.reject (Ledger.rowOf p.claims))

/-- The row of the refresh token, and what the store makes of it after that of the access token. -/
def secondRow (s : Service) (answer : σ → (q : Query) → Reply q × σ) (p : Principal)
    (parent : String) (st : σ) : Except Failure Unit × σ :=
  answer (firstRow answer p st).2
    (.reject (Ledger.parentRow s.config.longestRefreshTtl p.claims parent))

/-- How far a logout has come: its outcome, and the state in which it leaves the store. -/
inductive LogoutEnds (s : Service) (answer : σ → (q : Query) → Reply q × σ) (p : Principal)
    (parent : String) (st : σ) : Except Error Unit → σ → Prop where
  /-- No row was taken. -/
  | first {f : Failure} (refused : (firstRow answer p st).1 = .error f) :
      LogoutEnds s answer p parent st (.error (.ofStore f)) (firstRow answer p st).2
  /-- Only the row of the access token was taken. -/
  | second {f : Failure} (taken : (firstRow answer p st).1 = .ok ())
      (refused : (s.secondRow answer p parent st).1 = .error f) :
      LogoutEnds s answer p parent st (.error (.ofStore f)) (s.secondRow answer p parent st).2
  /-- Both rows were taken.  It may still be that the cookies cannot be dropped. -/
  | both {outcome : Except Error Unit} (taken : (firstRow answer p st).1 = .ok ())
      (taken' : (s.secondRow answer p parent st).1 = .ok ()) :
      LogoutEnds s answer p parent st outcome (s.secondRow answer p parent st).2

/-- The second row is put into the ledger only where the first one was taken. -/
theorem run_endSession (derived : p.claims.parent? = some parent) (st : σ) :
    (Ledger.endSession s.config p.claims).run.run answer st =
      match (firstRow answer p st).1 with
      | .ok _ => s.secondRow answer p parent st
      | .error f => (.error f, (firstRow answer p st).2) := by
  have unfolded : (Ledger.endSession s.config p.claims).run.run answer st = _ :=
    Action.run_bind answer (Action.ask (.reject (Ledger.rowOf p.claims))) _ st
  rw [unfolded, Action.run_ask, derived]
  unfold secondRow firstRow
  cases (answer st (.reject (Ledger.rowOf p.claims))).1 <;> rfl

/-- The logout of a session ends the session and then drops the cookies. -/
theorem logout_eq (session : p.source = .session) :
    s.logout p = (do
      Flow.withCookies (Flow.fetch (Ledger.endSession s.config p.claims))
      issuing (Token.clearCookies s.config)) := by
  have own : p.isApiToken = false := by rw [Principal.isApiToken, session]
  unfold logout
  rw [own]
  rfl

/-- How far a logout has come. -/
theorem logoutEnds (session : p.source = .session) (derived : p.claims.parent? = some parent)
    (out : Headers) :
    s.LogoutEnds answer p parent st (((s.logout p).run.run out).run answer st).1.1
      (((s.logout p).run.run out).run answer st).2 := by
  rw [logout_eq session, CookieFlow.run_bind, CookieFlow.run_fetch, run_endSession derived]
  cases first : (firstRow answer p st).1 with
  | error f => exact .first first
  | ok _ =>
      cases second : (s.secondRow answer p parent st).1 with
      | error f => exact .second first second
      | ok _ =>
          simp only
          rw [CookieFlow.run_issuing]
          exact .both first second

/-! ## Logouts that cannot be repeated -/

/-- A refresh token is left without anybody who could end it: it is not in the ledger, the access
token that was derived from it is, and the row of the refresh token is not taken. -/
structure Strands (s : Service) (answer : σ → (q : Query) → Reply q × σ)
    (rejected : σ → String → Bool) (p : Principal) (parent : String) (st : σ) : Prop where
  alive : rejected st parent = false
  other : p.claims.id ≠ parent
  spent : rejected st p.claims.id = true ∨ (firstRow answer p st).1 = .ok ()
  lost : (firstRow answer p st).1 = .ok () → (s.secondRow answer p parent st).1 ≠ .ok ()

/-- What the ledger says after the row of the access token was taken. -/
theorem rejected_firstRow (law : KeepsLedger answer rejected)
    (taken : (firstRow answer p st).1 = .ok ()) (id : String) :
    rejected (firstRow answer p st).2 id = (id == p.claims.id || rejected st id) :=
  law.taken st (Ledger.rowOf p.claims) id taken

/-- A logout strands the refresh token just where the ledger has the access token and not
the refresh token afterwards. -/
theorem LogoutEnds.strands_iff (law : KeepsLedger answer rejected) {outcome : Except Error Unit}
    (h : s.LogoutEnds answer p parent st outcome after) :
    s.Strands answer rejected p parent st ↔
      rejected after parent = false ∧ rejected after p.claims.id = true := by
  cases h with
  | first refused =>
      have kept : rejected (firstRow answer p st).2 = rejected st := law.refused st _ _ refused
      rw [kept]
      constructor
      · rintro ⟨alive, -, spent, -⟩
        refine ⟨alive, spent.resolve_right fun taken => ?_⟩
        rw [refused] at taken
        cases taken
      · rintro ⟨alive, spent⟩
        refine ⟨alive, fun same => ?_, .inl spent, fun taken => ?_⟩
        · rw [same, alive] at spent
          cases spent
        · rw [refused] at taken
          cases taken
  | second taken refused =>
      have kept : rejected (s.secondRow answer p parent st).2 = rejected (firstRow answer p st).2 :=
        law.refused _ _ _ refused
      rw [kept, rejected_firstRow law taken, rejected_firstRow law taken]
      constructor
      · rintro ⟨alive, other, -, -⟩
        exact ⟨by simp [alive, Ne.symm other], by simp⟩
      · rintro ⟨alive, -⟩
        obtain ⟨other, alive⟩ := Bool.or_eq_false_iff.1 alive
        refine ⟨alive, fun same => by simp [same] at other, .inr taken, fun _ taken' => ?_⟩
        rw [refused] at taken'
        cases taken'
  | both taken taken' =>
      have ended : rejected (s.secondRow answer p parent st).2 parent = true := by
        have added := law.taken _ _ parent taken'
        refine added.trans ?_
        simp [Ledger.parentRow]
      constructor
      · exact fun strands => absurd taken' (strands.lost taken)
      · rintro ⟨alive, -⟩
        rw [ended] at alive
        cases alive

/-- A logout that strands the refresh token ends in an error. -/
theorem LogoutEnds.error_of_strands {outcome : Except Error Unit}
    (h : s.LogoutEnds answer p parent st outcome after)
    (strands : s.Strands answer rejected p parent st) : ∃ f, outcome = .error (.ofStore f) := by
  cases h with
  | first refused => exact ⟨_, rfl⟩
  | second taken refused => exact ⟨_, rfl⟩
  | both taken taken' => exact absurd taken' (strands.lost taken)

/-- With a token that is accepted when the logout begins, the refresh token is stranded where the
store takes the first row and not the second one. -/
theorem strands_iff_of_accepted (derived : p.claims.parent? = some parent)
    (accepted : Ledger.covers (rejected st) p.claims = false) :
    s.Strands answer rejected p parent st ↔ p.claims.id ≠ parent ∧
      (firstRow answer p st).1 = .ok () ∧ (s.secondRow answer p parent st).1 ≠ .ok () := by
  obtain ⟨unspent, alive⟩ := Bool.or_eq_false_iff.1 accepted
  rw [derived] at alive
  constructor
  · rintro ⟨-, other, spent, lost⟩
    have taken := spent.resolve_left (by rw [unspent]; exact Bool.false_ne_true)
    exact ⟨other, taken, lost taken⟩
  · rintro ⟨other, taken, refused⟩
    exact ⟨alive, other, .inr taken, fun _ => refused⟩

/-- After a logout, whatever its outcome, the refresh token is in the ledger or the access token is
as good as before, unless the logout strands the refresh token.  Then the logout has failed and the
access token is refused for good. -/
theorem logout_repeatable_iff (law : KeepsLedger answer rejected) (session : p.source = .session)
    (derived : p.claims.parent? = some parent) {now : Time}
    (verified : Token.verify s.config.key now text = .ok p.claims)
    (scope : p.claims.hasScope .access = true) {out : Headers} {outcome : Except Error Unit}
    {out' : Headers} (ended : ((s.logout p).run.run out).run answer st = ((outcome, out'), after)) :
    ((rejected after parent = true ∨
        ∀ t, Token.verify s.config.key t text = .ok p.claims →
          ((s.authenticate t (.signed text)).run.run answer after).1 = .ok p) ↔
      ¬s.Strands answer rejected p parent st) ∧
    (s.Strands answer rejected p parent st →
      (∃ f, outcome = .error (.ofStore f)) ∧ rejected after parent = false ∧
      ∀ t, Token.verify s.config.key t text = .ok p.claims →
        ((s.authenticate t (.signed text)).run.run answer after).1 = .error .unauthenticated) ∧
    (Ledger.covers (rejected st) p.claims = false →
      (s.Strands answer rejected p parent st ↔ p.claims.id ≠ parent ∧
        (firstRow answer p st).1 = .ok () ∧ (s.secondRow answer p parent st).1 ≠ .ok ())) := by
  have ends : s.LogoutEnds answer p parent st (((s.logout p).run.run out).run answer st).1.1
      (((s.logout p).run.run out).run answer st).2 := logoutEnds session derived out
  rw [ended] at ends
  have strands := ends.strands_iff law
  have accepts {t : Time} (h : Token.verify s.config.key t text = .ok p.claims) :
      ((s.authenticate t (.signed text)).run.run answer after).1 =
        if rejected after p.claims.id || rejected after parent then .error .unauthenticated
        else .ok p := by
    have accepted := run_authenticate law h scope after
    rwa [Ledger.covers, derived, ← session] at accepted
  refine ⟨?_, fun h => ?_, strands_iff_of_accepted derived⟩
  · rw [strands]
    constructor
    · rintro (gone | again) ⟨alive, spent⟩
      · rw [alive] at gone
        cases gone
      · have accepted := (accepts verified).symm.trans (again now verified)
        rw [spent] at accepted
        cases accepted
    · intro kept
      cases gone : rejected after parent with
      | true => exact .inl rfl
      | false =>
          have unspent : rejected after p.claims.id = false := by
            simpa [gone] using kept
          right
          intro t h
          rw [accepts h, unspent, gone]
          rfl
  · obtain ⟨alive, spent⟩ := strands.1 h
    refine ⟨ends.error_of_strands h, alive, fun t verified => ?_⟩
    rw [accepts verified, spent]
    rfl

end Service

end Access

/-! ## Writes that fail -/

namespace Store.Memory

/-- The store in memory, of which those writes to the ledger fail whose number `fails` picks. -/
def answerFailing (fails : Nat → Bool) (st : Memory × Nat) (q : Query) : Reply q × (Memory × Nat) :=
  match q with
  | .reject row =>
    if fails st.2 then (.error (.other "no connection"), st.1, st.2 + 1)
    else ((st.1.answer (.reject row)).1, (st.1.answer (.reject row)).2, st.2 + 1)
  | q => ((st.1.answer q).1, (st.1.answer q).2, st.2)

theorem answerFailing_reject (fails : Nat → Bool) (st : Memory × Nat) (row : Rejection) :
    answerFailing fails st (.reject row) =
      if fails st.2 then (.error (.other "no connection"), st.1, st.2 + 1)
      else (.ok (), st.1.withRow row, st.2 + 1) := rfl

/-- What the ledger has after a row was added. -/
theorem contains_withRow (m : Memory) (row : Rejection) (id : String) :
    (m.withRow row).rejections.contains id = (id == row.tokenId || m.rejections.contains id) := by
  rw [Register.contains_eq_isSome, Register.contains_eq_isSome, find?_withRow]
  by_cases same : id = row.tokenId
  · simp [same]
  · simp [same]

/-- Whichever writes fail, the ledger is kept. -/
theorem keepsLedger_answerFailing (fails : Nat → Bool) :
    KeepsLedger (answerFailing fails) fun st id => st.1.rejections.contains id where
  told _ _ := rfl
  looked _ _ := rfl
  taken st row id taken := by
    rw [answerFailing_reject] at taken ⊢
    cases failing : fails st.2 with
    | true =>
        rw [failing] at taken
        cases taken
    | false => exact contains_withRow st.1 row id
  refused st row f refused := by
    rw [answerFailing_reject] at refused ⊢
    cases failing : fails st.2 with
    | true => rfl
    | false =>
        rw [failing] at refused
        cases refused

end Store.Memory

namespace Access

open Store (Memory)

/-- Alice in a session with a refresh token. -/
def aliceDerived : Principal :=
  ⟨Token.accessClaims smallService.config 1000 "session" (alice none) [] 0 (some "refresh") .password,
    .session⟩

/-- The second write fails while Alice logs out.  She is told of it, her refresh token is as good as
before, and her access token is refused when she tries again. -/
theorem aliceDerived_stranded :
    ∃ text out after,
      ((smallService.authenticate 1000 (.signed text)).run.run
        (Memory.answerFailing (· == 1)) (smallStore none, 0)).1 = .ok aliceDerived ∧
      ((smallService.logout aliceDerived).run.run .empty).run (Memory.answerFailing (· == 1))
        (smallStore none, 0) = ((.error (.internal "store error: no connection"), out), after) ∧
      after.1.rejections.contains "refresh" = false ∧
      ((smallService.authenticate 1000 (.signed text)).run.run
        (Memory.answerFailing (· == 1)) after).1 = .error .unauthenticated := by
  have law := Memory.keepsLedger_answerFailing (· == 1)
  obtain ⟨text, signed⟩ := Token.exists_sign (a := smallService.config.algorithm)
    smallService_canIssue.secret aliceDerived.claims
  have verified : Token.verify smallService.config.key 1000 text = .ok aliceDerived.claims :=
    Token.verify_newClaims (by decide) (by decide) signed (by decide) (by decide)
  have accepted := Service.run_authenticate law verified rfl (smallStore none, 0)
  have ended : ((smallService.logout aliceDerived).run.run .empty).run
      (Memory.answerFailing (· == 1)) (smallStore none, 0) =
        ((.error (.internal "store error: no connection"), .empty), _) := rfl
  obtain ⟨-, strands, exactly⟩ :=
    Service.logout_repeatable_iff law rfl rfl verified rfl ended
  obtain ⟨-, alive, refused⟩ := strands ((exactly rfl).2 ⟨by decide, rfl, nofun⟩)
  exact ⟨text, .empty, _, accepted, ended, alive, refused 1000 verified⟩

end Access

end Gatehouse
