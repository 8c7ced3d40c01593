import Gatehouse.Proofs.Access.Success

/-!
# Runs of the service

A run is a sequence of events: logins, refreshes, logouts, cleanups of the ledger, and changes of
the records from outside.  Each event happens at a time of its own and against the store that the
events before it left.  A world holds the store together with the whole history, so that what was
handed out and who ended which session can be read off it.

Main definitions:

- `Event`, `Moment`, `World` and `World.step`.
- `Reachable`: the worlds of the runs in which each event is admitted.
- `Orderly`: the clock does not go back, ids are fresh, and tokens come only from this service.

Main results:

- Theorem `Event.find?_after`: what an event does to the ledger.
- Theorem `Issued.origin`: what a token that was handed out says.
- Theorem `Reachable.tidy`: tokens of a run have ids of their own and descend from earlier ones.
- Theorem `World.step_login_of_password`, theorem `World.step_login_of_enrolled` and theorem
  `World.step_refresh_of_verified`: events that hand out tokens.
-/

namespace Gatehouse.Access

open Http (Headers)
open Store (Memory Role User)
open Token (Claims IsTime LoginKind Time)

/-! ## Events -/

/-- Something that happens to the service. -/
inductive Event where
  | login (o : Occasion) (request : LoginRequest) (current : Option Principal)
  | refresh (o : Occasion) (headers : Headers) (requestedTtl : Nat) (redirect : Option String)
  | logout (now : Time) (p : Principal)
  | cleanup (now : Time)
  /-- The records are changed from outside into those of `m`; the ledger stays. -/
  | administer (now : Time) (m : Memory)

namespace Event

/-- When the event happens. -/
def time : Event → Time
  | login o .. | refresh o .. => o.now
  | logout now _ | cleanup now | administer now _ => now

/-- The ids that new tokens are given. -/
def freshIds : Event → List String
  | login o .. => [o.accessId, o.refreshId, o.pendingId]
  | refresh o .. => [o.accessId]
  | logout .. | cleanup _ | administer .. => []

/-- The id that a new access token is given. -/
def accessId? : Event → Option String
  | login o .. | refresh o .. => some o.accessId
  | logout .. | cleanup _ | administer .. => none

/-- The id that a new refresh token is given. -/
def refreshId? : Event → Option String
  | login o .. => some o.refreshId
  | refresh .. | logout .. | cleanup _ | administer .. => none

theorem mem_freshIds_of_accessId? {e : Event} {id : String} (h : e.accessId? = some id) :
    id ∈ e.freshIds := by
  cases e <;> simp [accessId?] at h
  all_goals simp [freshIds, h]

theorem mem_freshIds_of_refreshId? {e : Event} {id : String} (h : e.refreshId? = some id) :
    id ∈ e.freshIds := by
  cases e <;> simp [refreshId?] at h
  simp [freshIds, h]

/-- Access tokens and refresh tokens are given different ids. -/
theorem accessId?_ne_refreshId? {e : Event} (once : e.freshIds.Nodup) {id : String}
    (h : e.accessId? = some id) : e.refreshId? ≠ some id := by
  cases e with
  | login o request current =>
      intro h'
      obtain rfl := Option.some.inj h
      have same : o.refreshId = o.accessId := Option.some.inj h'
      simp [freshIds, same] at once
  | _ => simp [refreshId?]

/-- The principal whom a request comes from. -/
def principal? : Event → Option Principal
  | login _ _ current => current
  | logout _ p => some p
  | refresh .. | cleanup _ | administer .. => none

/-- The claims of the session that the event ends. -/
def ended? (e : Event) : Option Claims :=
  (e.principal?.filter (·.source == .session)).map (·.claims)

/-- The signed text that a request presents next to its principal. -/
def presented? (s : Service) : Event → Option String
  | login _ request _ =>
    match request.credential with
    | .secondFactor pendingToken _ => some pendingToken
    | .password .. => none
  | refresh _ headers .. => Http.Cookie.find? headers s.config.refreshCookie
  | logout .. | cleanup _ | administer .. => none

/-- The store after the event. -/
def after (s : Service) (m : Memory) : Event → Memory
  | login o request current => ((s.login o request current).runOn .empty m).2.2
  | refresh o headers requestedTtl redirect =>
    ((s.refresh o headers requestedTtl redirect).runOn .empty m).2.2
  | logout _ p => ((s.logout p).runOn .empty m).2.2
  | cleanup now => ((Ledger.cleanup now).runOn m).2
  | administer _ m' => { m' with rejections := m.rejections }

/-- Does the event drop rows of a date? -/
def drops (e : Event) (date : Time) : Bool :=
  match e with
  | cleanup now => date < now
  | login .. | refresh .. | logout .. | administer .. => false

theorem drops_iff {e : Event} {date : Time} :
    e.drops date = true ↔ ∃ now, e = cleanup now ∧ date < now := by
  cases e <;> simp [drops]

/-- An event changes the ledger for the session that it ends; an event that ends no session leaves
the rows alone that it does not drop. -/
theorem find?_after (s : Service) (m : Memory) (e : Event) (name : String) :
    (e.after s m).rejections.find? name =
      match e.ended? with
      | some claims => (m.withEnded s.config claims).rejections.find? name
      | none => (m.rejections.find? name).filter fun row => !e.drops row.expiresAt := by
  have all : (m.rejections.find? name).filter (fun _ => true) = m.rejections.find? name := by
    cases m.rejections.find? name <;> rfl
  cases e with
  | login o request current =>
      rw [after, Service.login_rejections, Service.storeAfterCurrent]
      simp only [ended?, principal?]
      cases current.filter (·.source == .session) with
      | none => exact all.symm
      | some p => rfl
  | refresh o headers requestedTtl redirect =>
      have kept : (after s m (refresh o headers requestedTtl redirect)).rejections =
          m.rejections := Service.refresh_keeps (·.rejections) _ _ _ _
      rw [kept]
      exact all.symm
  | logout now p =>
      rw [after, Service.logout_memory]
      obtain ⟨claims, source⟩ := p
      cases source with
      | session => rfl
      | apiToken id roles => exact all.symm
  | cleanup now =>
      have due : (fun row : Store.Rejection => decide (now ≤ row.expiresAt)) =
          fun row => !(cleanup now).drops row.expiresAt := by
        funext row
        rw [drops, ← decide_not]
        exact decide_eq_decide.2 Int.not_lt.symm
      have dropped : after s m (cleanup now) = (m.dropRejections now).2 :=
        congrArg Prod.snd (Ledger.runOn_cleanup now)
      rw [dropped, Memory.find?_dropRejections, due]
      rfl
  | administer now m' => exact all.symm

end Event

/-! ## Histories -/

/-- An event together with the store that it found. -/
structure Moment where
  before : Memory
  event : Event

/-- The store, the clock and what happened so far, the latest first. -/
structure World where
  memory : Memory
  clock : Time
  history : List Moment

/-- The world after an event. -/
def World.step (s : Service) (w : World) (e : Event) : World :=
  ⟨e.after s w.memory, e.time, ⟨w.memory, e⟩ :: w.history⟩

/-- The worlds of the runs in which each event is admitted in the world that it finds. -/
inductive Reachable (s : Service) (Admits : World → Event → Prop) : World → Prop where
  | start (m : Memory) (clock : Time) : Reachable s Admits ⟨m, clock, []⟩
  | step {w : World} {e : Event} (before : Reachable s Admits w) (admitted : Admits w e) :
      Reachable s Admits (w.step s e)

/-! ## Tokens that were handed out -/

namespace Moment

/-- The access token that was handed out. -/
def accessText? (s : Service) (x : Moment) : Option String :=
  match x.event with
  | .login o request current =>
    match ((s.login o request current).runOn .empty x.before).1 with
    | .ok (.established session) => some session.accessToken.token
    | _ => none
  | .refresh o headers requestedTtl redirect =>
    match ((s.refresh o headers requestedTtl redirect).runOn .empty x.before).1 with
    | .ok session => some session.accessToken.token
    | .error _ => none
  | .logout .. | .cleanup _ | .administer .. => none

/-- The token for the second step that was handed out. -/
def pendingText? (s : Service) (x : Moment) : Option String :=
  match x.event with
  | .login o request current =>
    match ((s.login o request current).runOn .empty x.before).1 with
    | .ok (.secondFactorRequired token) => some token.token
    | _ => none
  | .refresh .. | .logout .. | .cleanup _ | .administer .. => none

/-- A text that may have been handed out.  A login that fails can have set the cookie of a refresh
token before it failed, so every refresh token that could be signed in a login counts. -/
inductive Issued (s : Service) (x : Moment) (text : String) : Prop where
  | access (handed : x.accessText? s = some text)
  | pending (handed : x.pendingText? s = some text)
  | refresh {o : Occasion} {request : LoginRequest} {current : Option Principal} {user : User}
      {roles : List Role} {kind : LoginKind} (login : x.event = .login o request current)
      (signed : Token.sign s.config.algorithm s.config.key
        (Token.refreshClaims s.config o.now o.refreshId user roles kind) = .ok text)

/-- What a token says that was handed out at a moment. -/
inductive Origin (s : Service) (x : Moment) : Claims → Prop where
  /-- An access token of a session that begins. -/
  | login {o : Occasion} {request : LoginRequest} {current : Option Principal} {user : User}
      {roles : List Role} {parent : Option String} {kind : LoginKind}
      (event : x.event = .login o request current)
      (derived : parent = none ∨ parent = some o.refreshId) :
      Origin s x (Token.accessClaims s.config o.now o.accessId user roles request.requestedTtl
        parent kind)
  /-- An access token for which a refresh token was traded. -/
  | refresh {o : Occasion} {headers : Headers} {requestedTtl : Nat} {redirect : Option String}
      {text : String} {claims : Claims} {user : User} {roles : List Role} {kind : LoginKind}
      (event : x.event = .refresh o headers requestedTtl redirect)
      (given : Http.Cookie.find? headers s.config.refreshCookie = some text)
      (verified : Token.verify s.config.key o.now text = .ok claims)
      (scope : claims.hasScope .refresh = true) :
      Origin s x (Token.accessClaims s.config o.now o.accessId user roles requestedTtl
        (some claims.id) kind)
  /-- A refresh token. -/
  | refreshToken {o : Occasion} {request : LoginRequest} {current : Option Principal}
      {user : User} {roles : List Role} {kind : LoginKind}
      (event : x.event = .login o request current) :
      Origin s x (Token.refreshClaims s.config o.now o.refreshId user roles kind)
  /-- A token for the second step. -/
  | pending {o : Occasion} {request : LoginRequest} {current : Option Principal} {user : User}
      (event : x.event = .login o request current) :
      Origin s x (Token.pendingClaims s.config o.now o.pendingId user)

variable {s : Service} {x : Moment}

/-- An access token that was handed out was signed at its moment. -/
theorem exists_of_accessText? {text : String} (h : x.accessText? s = some text) :
    ∃ claims, Origin s x claims ∧ claims.hasScope .access = true ∧
      Token.sign s.config.algorithm s.config.key claims = .ok text := by
  unfold accessText? at h
  split at h
  · rename_i o request current event
    split at h
    · rename_i session ended
      obtain rfl := Option.some.inj h
      cases Service.login_ok (Prod.ext ended rfl) with
      | password credential checked single owner begun signed =>
          exact ⟨_, .login event begun.derived, rfl, signed⟩
      | secondFactor credential checked owner begun signed =>
          exact ⟨_, .login event begun.derived, rfl, signed⟩
    · cases h
  · rename_i o headers requestedTtl redirect event
    split at h
    · rename_i session ended
      obtain rfl := Option.some.inj h
      obtain ⟨text, claims, user, roles, kind, given, verified, scope, -, -, signed⟩ :=
        Service.refresh_ok (Prod.ext ended rfl)
      exact ⟨_, .refresh event given verified scope, rfl, signed⟩
    · cases h
  all_goals cases h

/-- A token for the second step that was handed out was signed at its moment. -/
theorem exists_of_pendingText? {text : String} (h : x.pendingText? s = some text) :
    ∃ claims, Origin s x claims ∧ claims.hasScope .pending = true ∧
      Token.sign s.config.algorithm s.config.key claims = .ok text := by
  unfold pendingText? at h
  split at h
  · rename_i o request current event
    split at h
    · rename_i token ended
      obtain rfl := Option.some.inj h
      cases Service.login_ok (Prod.ext ended rfl) with
      | pending credential checked enrolled signed => exact ⟨_, .pending event, rfl, signed⟩
    · cases h
  all_goals cases h

/-- Every token that was handed out was signed at its moment. -/
theorem Issued.exists_signed {text : String} (h : x.Issued s text) :
    ∃ claims, Origin s x claims ∧
      Token.sign s.config.algorithm s.config.key claims = .ok text := by
  cases h with
  | access handed =>
      obtain ⟨claims, origin, -, signed⟩ := exists_of_accessText? handed
      exact ⟨claims, origin, signed⟩
  | pending handed =>
      obtain ⟨claims, origin, -, signed⟩ := exists_of_pendingText? handed
      exact ⟨claims, origin, signed⟩
  | refresh event signed => exact ⟨_, .refreshToken event, signed⟩

/-- New tokens are dated at the time of the event. -/
theorem Origin.issuedAt {claims : Claims} (h : Origin s x claims) :
    claims.issuedAt = x.event.time := by
  cases h with
  | login event derived => rw [event]; rfl
  | refresh event given verified scope => rw [event]; rfl
  | refreshToken event => rw [event]; rfl
  | pending event => rw [event]; rfl

/-- The times of new tokens can be written. -/
theorem Origin.isTimely {claims : Claims} (h : Origin s x claims) (time : IsTime x.event.time) :
    claims.IsTimely := by
  cases h with
  | login event derived => exact Token.isTimely_newClaims (by rw [event] at time; exact time)
  | refresh event given verified scope =>
      exact Token.isTimely_newClaims (by rw [event] at time; exact time)
  | refreshToken event => exact Token.isTimely_newClaims (by rw [event] at time; exact time)
  | pending event => exact Token.isTimely_newClaims (by rw [event] at time; exact time)

/-- A refresh token has the id that was meant for it. -/
theorem Origin.refreshId?_eq {claims : Claims} (h : Origin s x claims)
    (scope : claims.hasScope .refresh = true) : x.event.refreshId? = some claims.id := by
  cases h with
  | login event derived => cases scope
  | refresh event given verified scope' => cases scope
  | refreshToken event => rw [event]; rfl
  | pending event => cases scope

/-- A refresh token has no more than the longest lifetime. -/
theorem Origin.expiresAt_le {claims : Claims} (h : Origin s x claims)
    (scope : claims.hasScope .refresh = true) :
    claims.expiresAt ≤ Token.expiry x.event.time s.config.longestRefreshTtl := by
  cases h with
  | login event derived => cases scope
  | refresh event given verified scope' => cases scope
  | refreshToken event =>
      rw [event]
      exact Token.expiry_refreshTtl_le (Int.le_refl _) _
  | pending event => cases scope

/-- An access token has the id that was meant for it. -/
theorem Origin.accessId?_eq {claims : Claims} (h : Origin s x claims)
    (scope : claims.hasScope .access = true) : x.event.accessId? = some claims.id := by
  cases h with
  | login event derived => rw [event]; rfl
  | refresh event given verified scope' => rw [event]; rfl
  | refreshToken event => cases scope
  | pending event => cases scope

/-- What a token says that was handed out, as verification reads it. -/
theorem Issued.origin {text : String} {now : Time} {claims : Claims} (h : x.Issued s text)
    (time : IsTime x.event.time)
    (verified : Token.verify s.config.key now text = .ok claims) : Origin s x claims := by
  obtain ⟨signedClaims, origin, signed⟩ := h.exists_signed
  rw [Token.eq_of_verify_sign signed (origin.isTimely time) verified]
  exact origin

/-- A moment hands out one access token at most. -/
theorem Issued.accessText? {text : String} {now : Time} {claims : Claims} (h : x.Issued s text)
    (time : IsTime x.event.time) (verified : Token.verify s.config.key now text = .ok claims)
    (scope : claims.hasScope .access = true) : x.accessText? s = some text := by
  have signed_for {signedClaims : Claims} (origin : Origin s x signedClaims)
      (signed : Token.sign s.config.algorithm s.config.key signedClaims = .ok text) :
      claims = signedClaims := Token.eq_of_verify_sign signed (origin.isTimely time) verified
  cases h with
  | access handed => exact handed
  | pending handed =>
      obtain ⟨signedClaims, origin, pending, signed⟩ := exists_of_pendingText? handed
      cases origin with
      | login event derived => cases pending
      | refresh event given verified' scope' => cases pending
      | refreshToken event => cases pending
      | pending event =>
          rw [signed_for (.pending event) signed] at scope
          cases scope
  | refresh event signed =>
      rw [signed_for (.refreshToken event) signed] at scope
      cases scope

end Moment

namespace World

/-- The text may have been handed out by the service. -/
def Knows (s : Service) (w : World) (text : String) : Prop :=
  ∃ x ∈ w.history, x.Issued s text

/-- The text passes for a token of the service only if the service handed it out. -/
def Genuine (s : Service) (w : World) (text : String) : Prop :=
  ∀ now claims, Token.verify s.config.key now text = .ok claims → w.Knows s text

end World

namespace World

/-- The claims of an access token that was handed out. -/
def Granted (s : Service) (w : World) (claims : Claims) : Prop :=
  ∃ text now, w.Knows s text ∧ Token.verify s.config.key now text = .ok claims ∧
    claims.hasScope .access = true

end World

/-- The clock does not go back, the ids of new tokens are fresh, and all tokens come from this
service. -/
structure Orderly (s : Service) (w : World) (e : Event) : Prop where
  time : IsTime e.time
  later : w.clock ≤ e.time
  once : e.freshIds.Nodup
  unused : ∀ id ∈ e.freshIds, ∀ x ∈ w.history, id ∉ x.event.freshIds
  genuine : ∀ text, e.presented? s = some text → w.Genuine s text
  principal : ∀ claims, e.ended? = some claims → w.Granted s claims

/-! ## What holds in every run -/

variable {s : Service} {w : World} {e : Event}

theorem World.Knows.step {text : String} (h : w.Knows s text) : (w.step s e).Knows s text := by
  obtain ⟨x, hx, issued⟩ := h
  exact ⟨x, List.mem_cons_of_mem _ hx, issued⟩

theorem World.Granted.step {claims : Claims} (h : w.Granted s claims) :
    (w.step s e).Granted s claims := by
  obtain ⟨text, now, known, verified, scope⟩ := h
  exact ⟨text, now, known.step, verified, scope⟩

/-- Tokens of a run have ids of their own and descend from earlier ones. -/
structure Tidy (s : Service) (w : World) : Prop where
  past : ∀ x ∈ w.history, x.event.time ≤ w.clock
  time : ∀ x ∈ w.history, IsTime x.event.time
  once : ∀ x ∈ w.history, x.event.freshIds.Nodup
  own : ∀ x ∈ w.history, ∀ y ∈ w.history, ∀ id ∈ x.event.freshIds, id ∈ y.event.freshIds → x = y
  principal : ∀ x ∈ w.history, ∀ claims, x.event.ended? = some claims → w.Granted s claims
  descends : ∀ claims, w.Granted s claims → ∀ parent, claims.parent? = some parent →
    ∃ y ∈ w.history, y.event.refreshId? = some parent ∧ y.event.time ≤ claims.issuedAt

/-- The refresh token that a new access token is derived from was handed out no later. -/
theorem Orderly.descends (admitted : Orderly s w e) (tidy : Tidy s w) {claims : Claims}
    (origin : Moment.Origin s ⟨w.memory, e⟩ claims) {parent : String}
    (h : claims.parent? = some parent) :
    ∃ y ∈ (w.step s e).history,
      y.event.refreshId? = some parent ∧ y.event.time ≤ claims.issuedAt := by
  have dated := origin.issuedAt
  cases origin with
  | login event derived =>
      refine ⟨_, List.mem_cons_self, ?_, Int.le_of_eq dated.symm⟩
      obtain ⟨given, -⟩ := Option.filter_eq_some_iff.1 h
      rcases derived with rfl | rfl
      · cases given
      · cases given
        simp only at event ⊢
        rw [event]
        rfl
  | @refresh o headers requestedTtl redirect text traded user roles kind event given verified scope =>
      obtain ⟨hparent, -⟩ := Option.filter_eq_some_iff.1 h
      obtain rfl : traded.id = parent := Option.some.inj hparent
      simp only at event
      subst event
      obtain ⟨y, hy, issued⟩ := admitted.genuine text given o.now traded verified
      refine ⟨y, List.mem_cons_of_mem _ hy, ?_, ?_⟩
      · exact (issued.origin (tidy.time y hy) verified).refreshId?_eq scope
      · exact Int.le_trans (tidy.past y hy) admitted.later
  | refreshToken event => cases h
  | pending event => cases h

/-- An event that is admitted keeps the world tidy. -/
theorem Tidy.step (tidy : Tidy s w) (admitted : Orderly s w e) : Tidy s (w.step s e) where
  past x hx := by
    rcases List.mem_cons.1 hx with rfl | hx
    · exact Int.le_refl _
    · exact Int.le_trans (tidy.past x hx) admitted.later
  time x hx := by
    rcases List.mem_cons.1 hx with rfl | hx
    · exact admitted.time
    · exact tidy.time x hx
  once x hx := by
    rcases List.mem_cons.1 hx with rfl | hx
    · exact admitted.once
    · exact tidy.once x hx
  own x hx y hy id hidx hidy := by
    rcases List.mem_cons.1 hx with rfl | hx
    · rcases List.mem_cons.1 hy with rfl | hy
      · rfl
      · exact absurd hidy (admitted.unused id hidx y hy)
    · rcases List.mem_cons.1 hy with rfl | hy
      · exact absurd hidx (admitted.unused id hidy x hx)
      · exact tidy.own x hx y hy id hidx hidy
  principal x hx claims ended := by
    rcases List.mem_cons.1 hx with rfl | hx
    · exact (admitted.principal claims ended).step
    · exact (tidy.principal x hx claims ended).step
  descends claims granted parent hparent := by
    obtain ⟨text, now, ⟨x, hx, issued⟩, verified, scope⟩ := granted
    rcases List.mem_cons.1 hx with rfl | hx
    · exact admitted.descends tidy (issued.origin admitted.time verified) hparent
    · obtain ⟨y, hy, descends⟩ :=
        tidy.descends claims ⟨text, now, ⟨x, hx, issued⟩, verified, scope⟩ parent hparent
      exact ⟨y, List.mem_cons_of_mem _ hy, descends⟩

/-- Every world of an orderly run is tidy. -/
theorem Reachable.tidy (h : Reachable s (Orderly s) w) : Tidy s w := by
  induction h with
  | start m clock =>
      have none : ∀ x : Moment, x ∉ (⟨m, clock, []⟩ : World).history := fun _ => List.not_mem_nil
      exact {
        past := fun x hx => absurd hx (none x)
        time := fun x hx => absurd hx (none x)
        once := fun x hx => absurd hx (none x)
        own := fun x hx => absurd hx (none x)
        principal := fun x hx => absurd hx (none x)
        descends := fun _ ⟨_, _, ⟨x, hx, _⟩, _⟩ => absurd hx (none x) }
  | step before admitted ih => exact ih.step admitted

namespace Tidy

variable {claims claims' : Claims}

/-- A text that was handed out and accepted once says the same at every time of its window. -/
theorem verify_known (tidy : Tidy s w) {text : String} (known : w.Knows s text) {before : Time}
    (verified : Token.verify s.config.key before text = .ok claims) (now : Time) :
    Token.verify s.config.key now text = (Token.checkWindow now claims).map fun _ => claims := by
  obtain ⟨x, hx, issued⟩ := known
  obtain ⟨signedClaims, origin, signed⟩ := issued.exists_signed
  have timely := origin.isTimely (tidy.time x hx)
  obtain rfl := Token.eq_of_verify_sign signed timely verified
  exact Token.verify_sign signed timely

/-- Access tokens with one id say the same. -/
theorem granted_inj (tidy : Tidy s w) (h : w.Granted s claims) (h' : w.Granted s claims')
    (same : claims.id = claims'.id) : claims = claims' := by
  obtain ⟨text, now, ⟨x, hx, issued⟩, verified, scope⟩ := h
  obtain ⟨text', now', ⟨x', hx', issued'⟩, verified', scope'⟩ := h'
  have origin := issued.origin (tidy.time x hx) verified
  have origin' := issued'.origin (tidy.time x' hx') verified'
  have hid := origin.accessId?_eq scope
  have hid' := origin'.accessId?_eq scope'
  rw [← same] at hid'
  obtain rfl := tidy.own x hx x' hx' claims.id (Event.mem_freshIds_of_accessId? hid)
    (Event.mem_freshIds_of_accessId? hid')
  have handed := issued.accessText? (tidy.time x hx) verified scope
  rw [issued'.accessText? (tidy.time x hx) verified' scope'] at handed
  obtain rfl := Option.some.inj handed
  obtain ⟨signedClaims, origin, signed⟩ := issued.exists_signed
  have timely := origin.isTimely (tidy.time x hx)
  rw [Token.eq_of_verify_sign signed timely verified,
    Token.eq_of_verify_sign signed timely verified']

/-- No access token has the id of a refresh token. -/
theorem refreshId?_ne_of_granted (tidy : Tidy s w) (h : w.Granted s claims) {y : Moment}
    (hy : y ∈ w.history) : y.event.refreshId? ≠ some claims.id := by
  intro hrefresh
  obtain ⟨text, now, ⟨x, hx, issued⟩, verified, scope⟩ := h
  have haccess := (issued.origin (tidy.time x hx) verified).accessId?_eq scope
  obtain rfl := tidy.own x hx y hy claims.id (Event.mem_freshIds_of_accessId? haccess)
    (Event.mem_freshIds_of_refreshId? hrefresh)
  exact Event.accessId?_ne_refreshId? (tidy.once x hx) haccess hrefresh

end Tidy

/-! ## Handing out -/

section Handing

variable {o : Occasion} {session : Session} {out : Headers} {m : Memory}

/-- A login that ends in a session hands out its access token. -/
theorem World.step_login {request : LoginRequest} {current : Option Principal}
    (h : (s.login o request current).runOn .empty w.memory =
      (.ok (.established session), out, m)) :
    (w.step s (.login o request current)).memory = m ∧
      (w.step s (.login o request current)).Knows s session.accessToken.token := by
  refine ⟨?_, _, List.mem_cons_self, .access ?_⟩
  · simp only [World.step, Event.after, h]
  · simp only [Moment.accessText?, h]

/-- A refresh that ends well hands out its access token. -/
theorem World.step_refresh {headers : Headers} {requestedTtl : Nat} {redirect : Option String}
    (h : (s.refresh o headers requestedTtl redirect).runOn .empty w.memory =
      (.ok session, out, m)) :
    (w.step s (.refresh o headers requestedTtl redirect)).memory = m ∧
      (w.step s (.refresh o headers requestedTtl redirect)).Knows s
        session.accessToken.token := by
  refine ⟨?_, _, List.mem_cons_self, .access ?_⟩
  · simp only [World.step, Event.after, h]
  · simp only [Moment.accessText?, h]

/-- A login with the right password hands out an access token and the refresh token that it is
derived from. -/
theorem World.step_login_of_password (can : Token.CanIssue s.config) {request : LoginRequest}
    {name password : String} {user : User}
    (credential : request.credential = .password name password)
    (wanted : request.withRefreshToken = true)
    (found : w.memory.loginUser? s.config.loginByEmail (Text.trim name) = some user)
    (fits : Credential.passwordMatches user.passwordHash password = true)
    (single : user.hasSecondFactor = false) :
    (w.step s (.login o request none)).memory = w.memory ∧
    ∃ roles text refreshText,
      Token.sign s.config.algorithm s.config.key (Token.accessClaims s.config o.now o.accessId user
        roles request.requestedTtl (some o.refreshId) .password) = .ok text ∧
      Token.sign s.config.algorithm s.config.key
        (Token.refreshClaims s.config o.now o.refreshId user roles .password) = .ok refreshText ∧
      (w.step s (.login o request none)).Knows s text ∧
      (w.step s (.login o request none)).Knows s refreshText := by
  obtain ⟨session, out, roles, parent, ended, begun, signed⟩ :=
    Service.login_of_password can o .empty none credential found fits single
  obtain ⟨memory, known⟩ := World.step_login ended
  refine ⟨memory, roles, ?_⟩
  generalize session.refreshToken = refreshToken at begun
  cases begun with
  | alone unwanted => cases wanted.symm.trans unwanted
  | withRefresh issued wanted signedRefresh =>
      exact ⟨_, _, signed, signedRefresh, known, _, List.mem_cons_self, .refresh rfl signedRefresh⟩

/-- A refresh with a good refresh token hands out an access token that is derived from it. -/
theorem World.step_refresh_of_verified (can : Token.CanIssue s.config) {headers : Headers}
    {text : String} {claims : Claims} {user : User} (requestedTtl : Nat)
    (redirect : Option String)
    (given : Http.Cookie.find? headers s.config.refreshCookie = some text)
    (verified : Token.verify s.config.key o.now text = .ok claims)
    (scope : claims.hasScope .refresh = true) (kept : w.memory.rejects claims = false)
    (active : w.memory.activeUser? claims.subject = some user) :
    (w.step s (.refresh o headers requestedTtl redirect)).memory = w.memory ∧
    ∃ roles text',
      Token.sign s.config.algorithm s.config.key (Token.accessClaims s.config o.now o.accessId user
        roles requestedTtl (some claims.id) (claims.loginKind?.getD .password)) = .ok text' ∧
      (w.step s (.refresh o headers requestedTtl redirect)).Knows s text' := by
  obtain ⟨session, out, roles, ended, signed⟩ := Service.refresh_of_verified can .empty
    requestedTtl redirect given verified scope kept active
  obtain ⟨memory, known⟩ := World.step_refresh ended
  exact ⟨memory, roles, _, signed, known⟩

/-- A login with the right password of a user with a second factor hands out a token for the second
step. -/
theorem World.step_login_of_enrolled (can : Token.CanIssue s.config) {request : LoginRequest}
    {name password : String} {user : User}
    (credential : request.credential = .password name password)
    (found : w.memory.loginUser? s.config.loginByEmail (Text.trim name) = some user)
    (fits : Credential.passwordMatches user.passwordHash password = true)
    (enrolled : user.hasSecondFactor = true) :
    (w.step s (.login o request none)).memory = w.memory ∧
    ∃ token, Token.sign s.config.algorithm s.config.key
        (Token.pendingClaims s.config o.now o.pendingId user) = .ok token ∧
      Moment.pendingText? s ⟨w.memory, .login o request none⟩ = some token := by
  obtain ⟨issued, out, ended⟩ :=
    Service.login_of_enrolled can o .empty none credential found fits enrolled
  obtain ⟨token, same, signed⟩ :=
    (Service.login_enrolled credential found enrolled).1 _ (congrArg Prod.fst ended)
  obtain rfl := LoginOutcome.secondFactorRequired.inj same
  refine ⟨?_, issued.token, signed, ?_⟩
  · simp only [World.step, Event.after, ended]
    rfl
  · simp only [Moment.pendingText?, ended]

end Handing

/-- Claims that were signed and whose token was handed out have been granted. -/
theorem World.Knows.granted_of_newClaims {text id : String} (known : w.Knows s text) {now : Time}
    (epoch : 0 ≤ now) (time : IsTime now) {user : User} {scope : Token.Scope} {ttl : Nat}
    {metadata : Token.Metadata}
    (access : (Token.newClaims s.config now id user scope ttl metadata).hasScope .access = true)
    (signed : Token.sign s.config.algorithm s.config.key
      (Token.newClaims s.config now id user scope ttl metadata) = .ok text) :
    w.Granted s (Token.newClaims s.config now id user scope ttl metadata) := by
  exact ⟨text, now, known, Token.verify_newClaims epoch time signed (Int.le_refl now)
    (Token.le_expiry time ttl), access⟩

/-- Whoever was handed a refresh token can ask for it to be traded. -/
theorem Orderly.refresh {o : Occasion} {headers : Headers} {text : String} (time : IsTime o.now)
    (later : w.clock ≤ o.now) (unused : ∀ x ∈ w.history, o.accessId ∉ x.event.freshIds)
    (given : Http.Cookie.find? headers s.config.refreshCookie = some text)
    (known : w.Knows s text) (requestedTtl : Nat) (redirect : Option String) :
    Orderly s w (.refresh o headers requestedTtl redirect) where
  time := time
  later := later
  once := List.pairwise_singleton _ _
  unused := by
    intro id hid
    obtain rfl := List.mem_singleton.1 hid
    exact unused
  genuine := by
    intro text' presented now claims _
    obtain rfl := Option.some.inj (presented.symm.trans given)
    exact known
  principal := fun _ h => by cases h

/-- The ledger can be cleaned up at any time. -/
theorem Orderly.cleanup {t : Time} (time : IsTime t) (later : w.clock ≤ t) :
    Orderly s w (.cleanup t) where
  time := time
  later := later
  once := List.nodup_nil
  unused := fun _ h => absurd h List.not_mem_nil
  genuine := fun _ h => by cases h
  principal := fun _ h => by cases h

/-- Whoever was granted an access token can log out with it. -/
theorem Orderly.logout {claims : Claims} (now : Time) (time : IsTime now) (later : w.clock ≤ now)
    (granted : w.Granted s claims) : Orderly s w (.logout now ⟨claims, .session⟩) where
  time := time
  later := later
  once := List.nodup_nil
  unused := fun _ h => absurd h List.not_mem_nil
  genuine := fun _ h => by cases h
  principal := fun _ h => by
    cases h
    exact granted

/-! ## A login -/

/-- When Alice logs in, and the ids of her tokens. -/
def aliceArrival : Occasion :=
  ⟨1000, "a", "r", "p", "k", []⟩

/-- Alice gives her password. -/
def alicePassword : LoginRequest :=
  ⟨.password "alice" "open", 0, true, none⟩

/-- Alice logs in. -/
def aliceLogin : Event :=
  .login aliceArrival alicePassword none

/-- The world before Alice logs in. -/
def unvisited : World :=
  ⟨smallStore none, 0, []⟩

/-- The world in which Alice has logged in. -/
def loggedIn : World :=
  unvisited.step smallService aliceLogin

theorem loggedIn_reachable : Reachable smallService (Orderly smallService) loggedIn :=
  Reachable.step (.start _ _)
    { time := by decide
      later := by decide
      once := by decide
      unused := fun _ _ x hx => absurd hx List.not_mem_nil
      genuine := fun text h => by cases h
      principal := fun claims h => by cases h }

/-- What is issued to Alice. -/
theorem loggedIn_issued :
    loggedIn.memory = smallStore none ∧
    ∃ roles text refreshText,
      Token.sign smallService.config.algorithm smallService.config.key
        (Token.accessClaims smallService.config 1000 "a" (alice none) roles 0 (some "r")
          .password) = .ok text ∧
      Token.sign smallService.config.algorithm smallService.config.key
        (Token.refreshClaims smallService.config 1000 "r" (alice none) roles .password) =
          .ok refreshText ∧
      loggedIn.Knows smallService text ∧ loggedIn.Knows smallService refreshText :=
  World.step_login_of_password smallService_canIssue rfl rfl (smallStore_loginUser? none)
    (alice_passwordMatches none) rfl

end Gatehouse.Access
