import Gatehouse.Proofs.Access.Run

/-!
# Second factors - From the password step to the second step

The token between the two steps is all that is kept of the password step.  It says for whom and when
the password was checked, so whoever passes the second step has passed the password step at most as
long ago as that token lasts.

Main definition: `Handed`: tokens for the second step come only from this service.

Main results:

- Theorem `Moment.passwordStep`: a token for the second step stands for a password that fits.
- Theorem `Reachable.exists_passwordStep`: in every run the second step follows the password step.
- Theorem `login_sound`: who gets a session from a step of a login.
-/

namespace Gatehouse.Access

open Http (Headers)
open Store (Memory User)
open Token (Claims IsTime Time)

variable {s : Service} {w : World} {e : Event}

/-- The clock may be set back, but not to before the epoch, and tokens for the second step come only
from this service. -/
structure Handed (s : Service) (w : World) (e : Event) : Prop where
  time : IsTime e.time
  clock : min w.clock 0 ≤ e.time
  pending : ∀ text now claims, e.presented? s = some text →
    Token.verify s.config.key now text = .ok claims → claims.hasScope .pending = true →
    ∃ x ∈ w.history, x.pendingText? s = some text

/-- The times of the events in a run. -/
structure Timed (w : World) : Prop where
  time : ∀ x ∈ w.history, IsTime x.event.time
  past : ∀ x ∈ w.history, min x.event.time 0 ≤ w.clock

/-- Events that are admitted keep the times in order. -/
theorem Timed.step (timed : Timed w) (admitted : Handed s w e) : Timed (w.step s e) where
  time x hx := by
    rcases List.mem_cons.1 hx with rfl | hx
    · exact admitted.time
    · exact timed.time x hx
  past x hx := by
    rcases List.mem_cons.1 hx with rfl | hx
    · exact Int.min_le_left _ _
    · have bound := timed.past x hx
      exact Int.le_trans (Int.le_min.2 ⟨bound, Int.min_le_right _ _⟩) admitted.clock

theorem Reachable.timed (h : Reachable s (Handed s) w) : Timed w := by
  induction h with
  | start m clock =>
      have none : ∀ x : Moment, x ∉ (⟨m, clock, []⟩ : World).history := fun _ => List.not_mem_nil
      exact ⟨fun x hx => absurd hx (none x), fun x hx => absurd hx (none x)⟩
  | step before admitted ih => exact ih.step admitted

/-- What a password step has checked that asked for the second step, and what it signed. -/
structure PasswordStep (s : Service) (x : Moment) (text : String) (user : User) : Prop where
  login : ∃ o request current name password, x.event = .login o request current ∧
    request.credential = .password name password ∧
    PasswordChecked s x.before name password user ∧
    Token.sign s.config.algorithm s.config.key
      (Token.pendingClaims s.config o.now o.pendingId (x.before.withEmail user)) = .ok text
  enrolled : user.hasSecondFactor = true

/-- A token for the second step stands for a password that fits. -/
theorem Moment.passwordStep {x : Moment} {text : String} (h : x.pendingText? s = some text) :
    ∃ user, PasswordStep s x text user := by
  unfold pendingText? at h
  split at h
  · rename_i o request current event
    split at h
    · rename_i token ended
      obtain rfl := Option.some.inj h
      cases Service.login_ok (Prod.ext ended rfl) with
      | pending credential checked enrolled signed =>
          exact ⟨_, ⟨o, request, current, _, _, event, credential, checked, signed⟩, enrolled⟩
    · cases h
  all_goals cases h

/-- A token for the second step is accepted for five minutes from the password step on. -/
theorem PasswordStep.window {x : Moment} {text : String} {user : User}
    (step : PasswordStep s x text user) (time : IsTime x.event.time) {now : Time}
    {claims : Claims} (verified : Token.verify s.config.key now text = .ok claims) :
    claims.subject = user.id ∧ now ≤ x.event.time + pendingTtl ∧
      (0 ≤ x.event.time → x.event.time ≤ now) := by
  obtain ⟨o, request, current, name, password, event, -, -, signed⟩ := step.login
  rw [event] at time ⊢
  obtain rfl := Token.eq_of_verify_sign signed (Token.isTimely_newClaims time) verified
  obtain ⟨-, alive, begun⟩ := Token.checkWindow_eq_ok.1 (Token.checkWindow_of_verify verified)
  refine ⟨rfl, Int.le_trans alive ?_, begun⟩
  exact Int.le_trans (Int.min_le_left _ _) (Int.add_le_add_left (Int.min_le_left _ _) _)

/-- Who gets a session from a step of a login. -/
theorem Service.login_established {o : Occasion} {request : LoginRequest}
    {current : Option Principal} {out out' : Headers} {m m' : Memory} {session : Session}
    (ended : (s.login o request current).runOn out m = (.ok (.established session), out', m')) :
    ∃ user, session.userId = user.id ∧
      ((∃ name password, request.credential = .password name password ∧
          PasswordChecked s m name password user ∧ user.hasSecondFactor = false) ∨
        (∃ token code, request.credential = .secondFactor token code ∧
          SecondFactorChecked s m m' o.now token code user)) := by
  cases Service.login_ok ended with
  | password credential checked single owner begun signed =>
      exact ⟨_, owner, .inl ⟨_, _, credential, checked, single⟩⟩
  | secondFactor credential checked owner begun signed =>
      exact ⟨_, owner, .inr ⟨_, _, credential, checked⟩⟩

/-- In a run, whoever passes the second step has passed the password step within five minutes. -/
theorem Reachable.exists_passwordStep (reachable : Reachable s (Handed s) w) {o : Occasion}
    {request : LoginRequest} {current : Option Principal} {out : Headers} {session : Session}
    {token code : String} (admitted : Handed s w (.login o request current))
    (credential : request.credential = .secondFactor token code)
    (ended : ((s.login o request current).runOn out w.memory).1 = .ok (.established session)) :
    ∃ x ∈ w.history, ∃ user, PasswordStep s x token user ∧ user.id = session.userId ∧
      x.event.time ≤ o.now ∧ o.now ≤ x.event.time + pendingTtl := by
  have timed := reachable.timed
  obtain ⟨record, owner, ⟨name, password, credential', -⟩ | ⟨token', code', credential', checked⟩⟩ :=
    Service.login_established (Prod.ext ended rfl)
  · cases credential.symm.trans credential'
  · cases credential.symm.trans credential'
    obtain ⟨claims, verified, scope, subject⟩ := checked.pending
    have presented : (Event.login o request current).presented? s = some token := by
      simp [Event.presented?, credential]
    obtain ⟨x, hx, handed⟩ := admitted.pending token o.now claims presented verified scope
    obtain ⟨user, step⟩ := Moment.passwordStep handed
    obtain ⟨subject', late, early⟩ := step.window (timed.time x hx) verified
    refine ⟨x, hx, user, step, ?_, ?_, late⟩
    · rw [← subject', subject, owner]
    · by_cases epoch : 0 ≤ x.event.time
      · exact early epoch
      · have bound := Int.le_trans
          (Int.le_min.2 ⟨timed.past x hx, Int.min_le_right _ _⟩) admitted.clock
        rwa [Int.min_eq_left (Int.le_of_lt (Int.not_le.1 epoch))] at bound

/-- Who gets a session from a step of a login, what the password step does for users who have
enrolled a second factor, and that in every run the second step follows the password step within
five minutes. -/
theorem login_sound (s : Service) :
    (∀ o request current out m session out' m',
      (s.login o request current).runOn out m = (.ok (.established session), out', m') →
      ∃ user, session.userId = user.id ∧
        ((∃ name password, request.credential = .password name password ∧
            PasswordChecked s m name password user ∧ user.hasSecondFactor = false) ∨
          (∃ token code, request.credential = .secondFactor token code ∧
            SecondFactorChecked s m m' o.now token code user))) ∧
    (∀ o request current out m name password user,
      request.credential = .password name password →
      m.loginUser? s.config.loginByEmail (Text.trim name) = some user →
      user.hasSecondFactor = true →
      (∀ outcome, ((s.login o request current).runOn out m).1 = .ok outcome →
        ∃ token, outcome = .secondFactorRequired token ∧
          Token.sign s.config.algorithm s.config.key
            (Token.pendingClaims s.config o.now o.pendingId user) = .ok token.token) ∧
      ∃ added, ((s.login o request current).runOn out m).2.1.lines = out.lines ++ added ∧
        ∀ line ∈ added, Token.DropsCookie s.config line) ∧
    (∀ w o request current out session token code, Reachable s (Handed s) w →
      Handed s w (.login o request current) → request.credential = .secondFactor token code →
      ((s.login o request current).runOn out w.memory).1 = .ok (.established session) →
      ∃ x ∈ w.history, ∃ user, PasswordStep s x token user ∧ user.id = session.userId ∧
        x.event.time ≤ o.now ∧ o.now ≤ x.event.time + pendingTtl) := by
  refine ⟨?_, ?_, ?_⟩
  · intro o request current out m session out' m' ended
    exact Service.login_established ended
  · intro o request current out m name password user credential found enrolled
    exact Service.login_enrolled credential found enrolled
  · intro w o request current out session token code reachable admitted credential ended
    exact reachable.exists_passwordStep admitted credential ended

/-- Whoever was handed a token for the second step can present it. -/
theorem Handed.secondStep {o : Occasion} {request : LoginRequest} {token code : String}
    (time : IsTime o.now) (clock : min w.clock 0 ≤ o.now)
    (credential : request.credential = .secondFactor token code) {x : Moment}
    (hx : x ∈ w.history) (handed : x.pendingText? s = some token) :
    Handed s w (.login o request none) where
  time := time
  clock := clock
  pending text now claims presented verified scope := by
    have same : (Event.login o request none).presented? s = some token := by
      simp [Event.presented?, credential]
    obtain rfl := Option.some.inj (presented.symm.trans same)
    exact ⟨x, hx, handed⟩

/-- The world before Alice logs in who has enrolled a second factor. -/
def enrolledWorld : World :=
  ⟨smallStore (some "JBSWY3DP"), 0, []⟩

/-- When Alice presents her code, and the ids of her tokens. -/
def aliceReturn : Occasion :=
  ⟨1200, "b", "r", "q", "k", []⟩

/-- Alice presents her code. -/
def aliceCode (token : String) : LoginRequest :=
  ⟨.secondFactor token "000000", 0, true, none⟩

/-- Alice passes the password step at 1000, presents her code at 1200, and gets a session. -/
theorem aliceSecondStep_sound :
    ∃ w token session, Reachable smallService (Handed smallService) w ∧
      ((smallService.login aliceReturn (aliceCode token) none).runOn .empty w.memory).1 =
        .ok (.established session) ∧
      ∃ x ∈ w.history, ∃ user, PasswordStep smallService x token user ∧
        user.id = session.userId ∧ x.event.time ≤ 1200 ∧ 1200 ≤ x.event.time + pendingTtl := by
  -- The password step asks for the second one.
  obtain ⟨memory, token, signed, handed⟩ := World.step_login_of_enrolled (w := enrolledWorld)
    (o := aliceArrival) smallService_canIssue
    (rfl : alicePassword.credential = .password "alice" "open")
    (smallStore_loginUser? (some "JBSWY3DP")) (alice_passwordMatches _) rfl
  have reachable : Reachable smallService (Handed smallService)
      (enrolledWorld.step smallService aliceLogin) := Reachable.step (.start _ _)
    { time := by decide
      clock := by decide
      pending := fun text now claims h => by cases h }
  -- The token is good for five minutes.
  have verified := Token.verify_newClaims (t := 1200) (by decide) (by decide) signed
    (by decide) (by decide)
  have credential : (aliceCode token).credential = .secondFactor token "000000" := rfl
  obtain ⟨session, out, ended⟩ := Service.login_of_secondFactor smallService_canIssue
    .empty (m := enrolledWorld.memory) (o := aliceReturn) credential verified rfl
    (smallStore_activeUser? _) rfl (by decide) rfl
  rw [← memory] at ended
  have established := congrArg Prod.fst ended
  have admitted := Handed.secondStep (o := aliceReturn)
    (w := enrolledWorld.step smallService aliceLogin) (by decide) (by decide) credential
    List.mem_cons_self handed
  exact ⟨_, token, session, reachable, established, (login_sound smallService).2.2 _ aliceReturn _
    none .empty session token "000000" reachable admitted credential established⟩

end Gatehouse.Access
