import Gatehouse.Proofs.Access.Interleaving

/-!
# Requests that are served at the same time - Requests that end well

In some orders of steps a thread is alone for a while.  Then it goes on as if there were no others,
and what is enough for a request to end well is enough for the thread.

Main results:

- Theorem `Pool.Admits.login` and theorem `Pool.Admits.refresh`: requests that can arrive.
- Theorem `Reached.advance` and theorem `Reached.serve`: a thread that is alone for a while.
- Theorem `Reached.login_of_password`: a login with the right password is served.
- Theorem `Reached.refresh_asked` and theorem `Reached.traded`: a refresh before and after others.
- Theorem `Sound.settled` and theorem `Sound.ends_of_done`: threads that are done.
-/

namespace Gatehouse.Access

open Http (Headers)
open Store (Action Memory Query User)
open Token (CanIssue Claims IsTime Time)

variable {s : Service} {m memory : Memory} {pool : Pool} {before after : List Thread} {x : Thread}
  {o : Occasion}

/-! ## Programs -/

/-- What a program hands out when nobody interferes, and the store that it leaves. -/
theorem CookieFlow.run_program {α : Type} (x : CookieFlow α) (handout : α → Handout)
    (m : Memory) :
    (x.program handout).run Memory.answer m =
      (match (x.runOn .empty m).1 with
        | .ok a => handout a
        | .error _ => .nothing, (x.runOn .empty m).2.2) :=
  Action.run_bind _ _ _ m

/-- A program that begins with a flow without cookies. -/
theorem CookieFlow.program_withCookies_bind {α β : Type} (x : Flow α) (f : α → CookieFlow β)
    (handout : β → Handout) :
    CookieFlow.program handout (Flow.withCookies x >>= f) =
      x.run.bind fun r =>
        match r with
        | .ok a => (f a).program handout
        | .error _ => .done .nothing := by
  have unfolded : CookieFlow.program handout (Flow.withCookies x >>= f) =
      ((x.run.bind fun r => .done (r, Headers.empty)).bind fun r =>
        (ExceptT.bindCont f r.1).run r.2).bind _ := rfl
  rw [unfolded, Action.bind_assoc, Action.bind_assoc]
  congr 1
  funext r
  cases r <;> rfl

/-- A refresh with a good refresh token asks the ledger and then trades the token. -/
theorem Service.program_refresh {headers : Headers} {token : String} {claims : Claims}
    (requestedTtl : Nat) (redirect : Option String)
    (given : Http.Cookie.find? headers s.config.refreshCookie = some token)
    (verified : Token.verify s.config.key o.now token = .ok claims)
    (scope : claims.hasScope .refresh = true) :
    (s.refresh o headers requestedTtl redirect).program Session.handout =
      (Flow.fetch (Ledger.isRejected claims)).run.bind fun r =>
        match r with
        | .ok false => (s.trade o claims requestedTtl redirect).program Session.handout
        | .ok true | .error _ => .done .nothing := by
  rw [Service.refresh_eq requestedTtl redirect given verified scope,
    CookieFlow.program_withCookies_bind]
  congr 1
  funext r
  rcases r with e | rejected
  · rfl
  · cases rejected <;> rfl

/-! ## Requests that can arrive -/

/-- Claims that were signed and whose token was handed out have been issued. -/
theorem Pool.Knows.issued_of_newClaims {text id : String} (known : pool.Knows s text)
    {now : Time} (epoch : 0 ≤ now) (time : IsTime now) {user : User}
    {scope : Token.Scope} {ttl : Nat} {metadata : Token.Metadata}
    (signed : Token.sign s.config.algorithm s.config.key
      (Token.newClaims s.config now id user scope ttl metadata) = .ok text) :
    pool.Issued s (Token.newClaims s.config now id user scope ttl metadata) :=
  ⟨text, now, known, Token.verify_newClaims epoch time signed (Int.le_refl now)
    (Token.le_expiry time ttl)⟩

/-- A login with a password can arrive with ids that are fresh and with a token that was issued. -/
theorem Pool.Admits.login {o : Occasion} {request : LoginRequest} {current : Option Principal}
    {name password : String} (credential : request.credential = .password name password)
    (time : IsTime o.now) (once : [o.accessId, o.refreshId, o.pendingId].Nodup)
    (absent : ∀ id ∈ [o.accessId, o.refreshId, o.pendingId], m.rejections.contains id = false)
    (unused : ∀ id ∈ [o.accessId, o.refreshId, o.pendingId], ∀ x ∈ pool.threads,
      id ∉ x.event.freshIds)
    (principal : ∀ p, (current.filter (·.source == .session)).map (·.claims) = some p →
      pool.Issued s p ∧ p.hasScope .access = true) :
    pool.Admits s m (.login o request current) where
  time := time
  once := once
  absent := absent
  genuine text presented := by
    rw [Event.presented?, credential] at presented
    cases presented
  principal := principal
  unused := unused

/-- A refresh can arrive with an id that is fresh and with a token that was handed out. -/
theorem Pool.Admits.refresh {o : Occasion} {headers : Headers} {text : String}
    (time : IsTime o.now) (absent : m.rejections.contains o.accessId = false)
    (unused : ∀ x ∈ pool.threads, o.accessId ∉ x.event.freshIds)
    (given : Http.Cookie.find? headers s.config.refreshCookie = some text)
    (known : pool.Knows s text) (requestedTtl : Nat) (redirect : Option String) :
    pool.Admits s m (.refresh o headers requestedTtl redirect) where
  time := time
  once := List.pairwise_singleton _ _
  absent := by
    intro id hid
    obtain rfl := List.mem_singleton.1 hid
    exact absent
  genuine := by
    intro text' presented now claims _
    obtain rfl := Option.some.inj (presented.symm.trans given)
    exact known
  principal := fun _ h => by cases h
  unused := by
    intro id hid
    obtain rfl := List.mem_singleton.1 hid
    exact unused

/-! ## Threads that are alone -/

/-- A thread can go on for a while without the others. -/
theorem Reached.advance {α : Type} {y : Action α} {f : α → Action Handout}
    (h : Reached s m ⟨memory, before ++ x :: after⟩) (rest : x.rest = y.bind f) :
    ∃ asked, Reached s m ⟨(y.run Memory.answer memory).2,
      before ++ ⟨x.toMoment, asked, f (y.run Memory.answer memory).1⟩ :: after⟩ := by
  induction y generalizing x memory with
  | done a =>
      obtain ⟨moment, asked, rest'⟩ := x
      obtain rfl : rest' = f a := rest
      exact ⟨asked, h⟩
  | query q next ih =>
      have goesOn := ih (memory.answer q).1 (h.step (.ask rest)) rfl
      exact goesOn

/-- A request can be served without the others. -/
theorem Reached.serve {e : Event} {program : Action Handout} (h : Reached s m pool)
    (known : e.program? s = some program) (admitted : pool.Admits s m e) :
    ∃ asked, Reached s m ⟨(program.run Memory.answer pool.memory).2,
      ⟨⟨pool.memory, e⟩, asked, .done (program.run Memory.answer pool.memory).1⟩ ::
        pool.threads⟩ := by
  have arrived : Reached s m
      ⟨pool.memory, [] ++ ⟨⟨pool.memory, e⟩, [], program⟩ :: pool.threads⟩ :=
    h.step (.arrive known admitted)
  exact arrived.advance program.bind_done.symm

/-- A login with the right password is served and hands out an access token.  That is derived from a
refresh token, when one is wanted. -/
theorem Reached.login_of_password (h : Reached s m pool) (can : CanIssue s.config)
    {current : Option Principal} {request : LoginRequest} {name password : String} {user : User}
    (admitted : pool.Admits s m (.login o request current))
    (credential : request.credential = .password name password)
    (wanted : request.withRefreshToken = true)
    (found : pool.memory.loginUser? s.config.loginByEmail (Text.trim name) = some user)
    (fits : Credential.passwordMatches user.passwordHash password = true)
    (single : user.hasSecondFactor = false) :
    ∃ asked roles text refreshText,
      Reached s m ⟨s.storeAfterCurrent pool.memory current,
        ⟨⟨pool.memory, .login o request current⟩, asked, .done ⟨some text, none⟩⟩ ::
          pool.threads⟩ ∧
      Token.sign s.config.algorithm s.config.key (Token.accessClaims s.config o.now o.accessId user
        roles request.requestedTtl (some o.refreshId) .password) = .ok text ∧
      Token.sign s.config.algorithm s.config.key
        (Token.refreshClaims s.config o.now o.refreshId user roles .password) =
          .ok refreshText := by
  obtain ⟨session, out, roles, parent, ended, begun, signed⟩ :=
    Service.login_of_password can o .empty current credential found fits single
  obtain ⟨asked, reached⟩ := h.serve rfl admitted
  rw [CookieFlow.run_program, ended] at reached
  generalize session.refreshToken = refreshToken at begun
  cases begun with
  | alone unwanted => cases wanted.symm.trans unwanted
  | withRefresh issued wanted signedRefresh =>
      exact ⟨asked, roles, _, _, reached, signed, signedRefresh⟩

/-- A refresh that has asked the ledger for its good refresh token is left with trading it. -/
theorem Reached.refresh_asked (h : Reached s m pool) {headers : Headers} {token : String}
    {claims : Claims} {requestedTtl : Nat} {redirect : Option String}
    (admitted : pool.Admits s m (.refresh o headers requestedTtl redirect))
    (given : Http.Cookie.find? headers s.config.refreshCookie = some token)
    (verified : Token.verify s.config.key o.now token = .ok claims)
    (scope : claims.hasScope .refresh = true) (kept : pool.memory.rejects claims = false) :
    ∃ asked, Reached s m ⟨pool.memory,
      ⟨⟨pool.memory, .refresh o headers requestedTtl redirect⟩, asked,
        (s.trade o claims requestedTtl redirect).program Session.handout⟩ :: pool.threads⟩ := by
  have arrived : Reached s m ⟨pool.memory, [] ++ ⟨⟨pool.memory, _⟩, [], _⟩ :: pool.threads⟩ :=
    h.step (.arrive rfl admitted)
  have looked : (Flow.fetch (Ledger.isRejected claims)).run.run Memory.answer pool.memory =
      (.ok false, pool.memory) := by
    rw [← kept]
    exact Flow.runOn_fetch (Ledger.runOn_isRejected claims)
  obtain ⟨asked, reached⟩ := arrived.advance
    (Service.program_refresh requestedTtl redirect given verified scope)
  rw [looked] at reached
  exact ⟨asked, reached⟩

/-- A refresh that is left with trading its token hands out an access token, whatever the ledger
says by then. -/
theorem Reached.traded (h : Reached s m ⟨memory, before ++ x :: after⟩) (can : CanIssue s.config)
    {claims : Claims} {requestedTtl : Nat} {redirect : Option String} {user : User}
    (rest : x.rest = (s.trade o claims requestedTtl redirect).program Session.handout)
    (active : memory.activeUser? claims.subject = some user) :
    ∃ asked roles text,
      Reached s m ⟨memory, before ++ ⟨x.toMoment, asked, .done ⟨some text, none⟩⟩ :: after⟩ ∧
      Token.sign s.config.algorithm s.config.key (Token.accessClaims s.config o.now o.accessId user
        roles requestedTtl (some claims.id) (claims.loginKind?.getD .password)) = .ok text := by
  obtain ⟨session, out, roles, ended, signed⟩ :=
    Service.trade_of_active can .empty requestedTtl redirect active
  obtain ⟨asked, reached⟩ := h.advance (rest.trans (Action.bind_done _).symm)
  rw [CookieFlow.run_program, ended] at reached
  exact ⟨asked, roles, _, reached, signed⟩

/-! ## Threads that are done -/

namespace Sound

variable {handout : Handout} {p : Claims}

/-- A request that is done has made all its changes of the ledger. -/
theorem mem_asked_of_done (sound : Sound s m pool) (hx : x ∈ pool.threads)
    (ended : x.rest = .done handout) (event : x.event.ended? = some p) {q : Query}
    (ending : q ∈ Ledger.endingQueries s.config p) : q ∈ x.asked := by
  have goesOn := sound.goesOn x hx
  rw [ended] at goesOn
  have made : (x.asked ++ []).filter Query.changesLedger = s.endingChanges x.event.ended? :=
    goesOn.1
  rw [List.append_nil, event] at made
  have found : q ∈ x.asked.filter Query.changesLedger := by
    rw [made]
    exact ending
  exact (List.mem_filter.1 found).1

/-- A request that is done has ended the session that it came with. -/
theorem ends_of_done (sound : Sound s m pool) (hx : x ∈ pool.threads)
    (ended : x.rest = .done handout) (event : x.event.ended? = some p) : x.Ends p :=
  ⟨event, sound.mem_asked_of_done hx ended event List.mem_cons_self⟩

/-- When all requests are done, all sessions that have begun to end have ended. -/
theorem settled (sound : Sound s m pool)
    (ended : ∀ x ∈ pool.threads, ∃ handout, x.rest = .done handout) : pool.Settled s := by
  intro x hx p ends q ending
  obtain ⟨handout, rest⟩ := ended x hx
  exact sound.mem_asked_of_done hx rest ends.1 ending

end Sound

end Gatehouse.Access
