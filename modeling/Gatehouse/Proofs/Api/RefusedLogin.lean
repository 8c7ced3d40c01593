import Gatehouse.Proofs.Api.LoginAnswer
import Gatehouse.Proofs.Except
import Gatehouse.Proofs.Token.Verification

/-!
# The application - Logins with a password that is refused

There are many reasons to refuse a password.  None of them shows in the response, which is told from
the settings, the header of the request and whether a session arrives with it; and the store changes
only for that session.

Main definitions:

- `Memory.RefusesPassword`: the reasons to refuse a password.
- `Request.HasRefusedPassword`: logins with a password that is refused.
- `refusalFor`: the error that such a login ends with.

Main results:

- Theorem `Memory.refusesPassword_iff`: there are no other reasons to refuse a password.
- Theorem `runOn_currentSession_eq`: whether the session is known that a request arrives with.
- Theorem `run_login_of_refused`: the answer to a login whose credential is refused.
- Theorem `refused_logins_alike`: two logins with refused passwords are answered alike.
-/

namespace Gatehouse.Store.Memory

/-- The reasons to refuse a password for a login name. -/
inductive RefusesPassword (m : Memory) (byEmail : Bool) (name password : String) : Prop where
  | blank (empty : name = "")
  /-- Nobody has the user name, and the name is no address by which somebody can log in. -/
  | unknown (unnamed : m.users.data.find? (·.username == name) = none)
      (unaddressed : byEmail = false ∨ m.emailOwner? name = none)
  | deleted {user : User} (named : m.users.data.find? (·.username == name) = some user)
      (deleted : user.deleted = true)
  | unverified {userId : String} (unnamed : m.users.data.find? (·.username == name) = none)
      (owner : m.emailOwner? name = some (userId, false))
  /-- The owner of the address is gone. -/
  | ownerless {userId : String} {verified : Bool}
      (unnamed : m.users.data.find? (·.username == name) = none)
      (owner : m.emailOwner? name = some (userId, verified))
      (gone : ∀ user, m.users.find? userId = some user → user.deleted = true)
  /-- What is stored of the password of the user cannot be read. -/
  | unreadable {user : User} (found : m.loginUser? byEmail name = some user)
      (unreadable : Credential.PasswordRecord.ofText? user.passwordHash = none)
  | wrong {user : User} {record : Credential.PasswordRecord}
      (found : m.loginUser? byEmail name = some user)
      (read : Credential.PasswordRecord.ofText? user.passwordHash = some record)
      (differs : record.verifies password = false)

variable {m : Memory} {byEmail : Bool} {name password : String}

/-- A name by which nobody can log in is refused. -/
theorem refusesPassword_of_nobody (nobody : m.loginUser? byEmail name = none) :
    m.RefusesPassword byEmail name password := by
  unfold loginUser? at nobody
  split at nobody
  · exact .blank (by simpa using ‹name.isEmpty = true›)
  · split at nobody
    · rename_i user named
      split at nobody
      · exact .deleted named ‹_›
      · cases nobody
    · rename_i unnamed
      split at nobody
      · cases owner : m.emailOwner? name with
        | none => exact .unknown unnamed (.inr owner)
        | some found =>
            obtain ⟨userId, verified⟩ := found
            cases verified with
            | false => exact .unverified unnamed owner
            | true =>
                refine .ownerless unnamed owner fun user stored => ?_
                simpa [owner, stored, Option.filter_eq_none_iff] using nobody
      · exact .unknown unnamed (.inl (by simpa using ‹¬byEmail = true›))

/-- There are no other reasons to refuse a password. -/
theorem refusesPassword_iff :
    m.RefusesPassword byEmail name password ↔
      ∀ user, m.loginUser? byEmail name = some user →
        Credential.passwordMatches user.passwordHash password = false := by
  constructor
  · intro refuses user found
    -- The first reasons are that nobody can log in by the name.
    have contradictory {P : Prop} (nobody : m.loginUser? byEmail name = none) : P := by
      rw [nobody] at found
      cases found
    cases refuses with
    | blank empty =>
        refine contradictory ?_
        rw [loginUser?, empty]
        rfl
    | unknown unnamed unaddressed =>
        refine contradictory ?_
        rcases unaddressed with forbidden | unaddressed
        · simp [loginUser?, unnamed, forbidden]
        · simp [loginUser?, unnamed, unaddressed]
    | deleted named deleted =>
        refine contradictory ?_
        simp [loginUser?, named, deleted]
    | unverified unnamed owner =>
        refine contradictory ?_
        simp [loginUser?, unnamed, owner]
    | ownerless unnamed owner gone =>
        refine contradictory ?_
        have passedOver (verified : Bool) (stored : Option User)
            (gone : ∀ user, stored = some user → user.deleted = true) :
            stored.filter (fun user => verified && !user.deleted) = none := by
          cases stored with
          | none => rfl
          | some user => simp [Option.filter, gone user rfl]
        simp [loginUser?, unnamed, owner, passedOver _ _ gone]
    | unreadable found' unreadable =>
        obtain rfl := Option.some.inj (found'.symm.trans found)
        rw [Credential.passwordMatches, unreadable]
    | wrong found' read differs =>
        obtain rfl := Option.some.inj (found'.symm.trans found)
        rw [Credential.passwordMatches, read]
        exact differs
  · intro refused
    cases found : m.loginUser? byEmail name with
    | none => exact refusesPassword_of_nobody found
    | some user =>
        have differs := refused user found
        unfold Credential.passwordMatches at differs
        split at differs
        · exact .wrong found ‹_› differs
        · exact .unreadable found ‹_›

end Gatehouse.Store.Memory

namespace Gatehouse.Access

open Http (Headers)
open Store (Memory)
open Token (Claims Time)

variable {s : Service} {m : Memory} {o : Occasion} {now : Time} {secret : Bytes} {token : String}

/-! ## Tokens that cannot be verified -/

/-- No failure counts as one of the service. -/
def Blameless {α : Type} (x : Except Token.Error α) : Prop :=
  ∀ e, x = .error e → ∀ detail, Error.ofToken e ≠ .internal detail

theorem Blameless.bind {α β : Type} {x : Except Token.Error α} {f : α → Except Token.Error β}
    (hx : Blameless x) (hf : ∀ a, Blameless (f a)) : Blameless (x >>= f) := by
  cases x with
  | error e => exact fun e' same => hx e' (by cases same; rfl)
  | ok a => exact hf a

theorem blameless_ok {α : Type} (a : α) : Blameless (.ok a) :=
  fun _ same => nomatch same

theorem blameless_error {α : Type} {e : Token.Error}
    (h : ∀ detail, Error.ofToken e ≠ .internal detail) : Blameless (.error e : Except _ α) := by
  rintro _ ⟨⟩
  exact h

theorem blameless_malformed {α : Type} {x : Except Token.Error α}
    (malformed : ∀ e, x = .error e → ∃ cause, e = .malformed cause) : Blameless x := by
  intro e failed detail
  obtain ⟨cause, rfl⟩ := malformed e failed
  exact nofun

theorem blameless_checkWindow (now : Time) (claims : Claims) :
    Blameless (Token.checkWindow now claims) := by
  unfold Token.checkWindow
  split
  · exact blameless_error nofun
  · split
    · exact blameless_error nofun
    · split
      · exact blameless_error nofun
      · exact blameless_ok ()

/-- With a secret, a token that is not accepted is no failure of the service. -/
theorem blameless_verify (given : secret.isEmpty = false) (now : Time) (token : String) :
    Blameless (Token.verify secret now token) := by
  unfold Token.verify
  rw [given, if_neg Bool.false_ne_true]
  split
  · refine Blameless.bind (blameless_malformed fun _ => Token.readPart_error) fun document => ?_
    split
    · split
      · split
        · exact blameless_error nofun
        · exact (blameless_malformed fun _ => Token.readClaims_error).bind fun claims =>
            (blameless_checkWindow now claims).bind fun _ => blameless_ok claims
      · exact blameless_error nofun
    · exact blameless_error nofun
  · exact blameless_error nofun

/-- A signed token is presented and there is no secret to verify it with. -/
def lacksSecret (c : Config) (headers : Headers) : Bool :=
  c.key.isEmpty && (PresentedToken.ofHeaders? headers c.accessCookie).any fun
    | .signed _ => true
    | .api _ => false

namespace Service

/-- Without a secret, a signed token is a failure of the service. -/
theorem authenticateHeaders_of_lacksSecret {headers : Headers}
    (lacks : lacksSecret s.config headers = true) :
    ((s.authenticateHeaders now headers).runOn m).1 = .error (.ofToken .missingSecret) := by
  obtain ⟨noSecret, presented⟩ := Bool.and_eq_true_iff.1 lacks
  unfold authenticateHeaders
  cases found : PresentedToken.ofHeaders? headers s.config.accessCookie with
  | none =>
      rw [found] at presented
      cases presented
  | some credential =>
      cases credential with
      | signed token =>
          have unverified : Token.verify s.config.key now token = .error .missingSecret := by
            rw [Token.verify, if_pos noSecret]
            rfl
          simp only [authenticate]
          rw [runOn_authenticateSigned, unverified]
      | api token =>
          rw [found] at presented
          cases presented

/-- In all other cases nobody is turned away for a failure of the service. -/
theorem authenticateHeaders_not_internal {headers : Headers}
    (lacks : lacksSecret s.config headers = false) (detail : String) :
    ((s.authenticateHeaders now headers).runOn m).1 ≠ .error (.internal detail) := by
  unfold authenticateHeaders
  cases found : PresentedToken.ofHeaders? headers s.config.accessCookie with
  | none => simp
  | some credential =>
      cases credential with
      | signed token =>
          have given : s.config.key.isEmpty = false := by
            rw [lacksSecret, found] at lacks
            simpa using lacks
          simp only [authenticate]
          rw [runOn_authenticateSigned]
          cases verified : Token.verify s.config.key now token with
          | error e =>
              simp only [ne_eq, Except.error.injEq]
              exact blameless_verify given now token e verified detail
          | ok claims =>
              simp only
              split <;> simp
      | api token =>
          simp only [authenticate]
          rw [runOn_authenticateApi]
          cases m.apiTokens.data.find? (·.digest == Token.ApiToken.digest token) with
          | none => simp
          | some stored =>
              simp only
              split
              · simp
              · cases m.activeUser? stored.userId <;> simp

/-! ## Steps that are refused -/

/-- How the session ends that a request arrives with. -/
theorem runOn_endCurrent (current : Option Principal) (out : Headers) (m : Memory) :
    ∃ out', (s.endCurrent current).runOn out m =
      (if current.any (·.source == .session) then
        ((Token.clearCookies s.config).run out).1.mapError Error.ofIssue
      else .ok (), out', s.storeAfterCurrent m current) := by
  unfold endCurrent storeAfterCurrent
  cases current with
  | none => exact ⟨out, rfl⟩
  | some p =>
      cases arrives : p.source == .session with
      | false =>
          refine ⟨out, ?_⟩
          simp only [Option.filter, Option.any, arrives, Bool.false_eq_true, if_false]
          rfl
      | true =>
          simp only [Option.filter, Option.any, arrives, if_true]
          change ∃ out', CookieFlow.runOn (Flow.withCookies
            (Flow.fetch (Ledger.endSession s.config p.claims)) >>=
              fun _ => issuing (Token.clearCookies s.config)) out m = _
          rw [CookieFlow.runOn_bind_ok (runOn_endSession p.claims), CookieFlow.runOn_issuing]
          rcases (Token.clearCookies s.config).run out with ⟨r, out'⟩
          cases r <;> exact ⟨out', rfl⟩

/-- What a step of a login ends with that is refused, by whether it arrives with a session. -/
def refusalOf (c : Config) (arrives : Bool) : Error :=
  if arrives then
    match ((Token.clearCookies c).run .empty).1 with
    | .ok _ => .unauthenticated
    | .error e => .ofIssue e
  else .unauthenticated

/-- Whoever passes does so before and after the session ends that a request arrives with. -/
theorem exists_passes_storeAfterCurrent {credential : LoginCredential}
    {current : Option Principal} :
    (∃ user m', Passes s now (s.storeAfterCurrent m current) credential user m') ↔
      ∃ user m', Passes s now m credential user m' := by
  unfold storeAfterCurrent
  split
  · exact exists_passes_withEnded
  · exact Iff.rfl

/-- A step of a login that is refused changes the store only for the session that it arrives with. -/
theorem login_of_refused {request : LoginRequest} (current : Option Principal)
    (refused : ¬∃ user m', Passes s o.now m request.credential user m') :
    ∃ cookies, (s.login o request current).runOn .empty m =
      (.error (refusalOf s.config (current.any (·.source == .session))), cookies,
        s.storeAfterCurrent m current) := by
  obtain ⟨cookies, ended⟩ := runOn_endCurrent (s := s) current .empty m
  have absent : ¬∃ user m', Passes s o.now (s.storeAfterCurrent m current) request.credential user m' :=
    mt exists_passes_storeAfterCurrent.1 refused
  have checked := runOn_credentialUser_of_refused fun user m' passes => absent ⟨user, m', passes⟩
  refine ⟨cookies, ?_⟩
  rw [login_eq, CookieFlow.runOn_bind, ended, refusalOf]
  cases current.any (·.source == .session) with
  | false =>
      simp only [Bool.false_eq_true, if_false]
      rw [CookieFlow.runOn_bind, CookieFlow.runOn_withCookies, checked]
  | true =>
      simp only [if_true]
      cases ((Token.clearCookies s.config).run .empty).1 with
      | error e => rfl
      | ok u =>
          simp only [Except.mapError]
          rw [CookieFlow.runOn_bind, CookieFlow.runOn_withCookies, checked]

end Service

end Gatehouse.Access

namespace Gatehouse.Api

open Access (Occasion Passes Principal Service lacksSecret)
open Http (Headers Response)
open Store (Action Memory)
open Token (Claims Time)

variable {s : Service} {o : Occasion} {r r' : Request} {m : Memory} {freshId : String}
  {request : Access.LoginRequest}

/-! ## The answer to a refused step -/

/-- A request arrives with the session of its caller, unless it presents a signed token that cannot
be verified for lack of a secret. -/
theorem runOn_currentSession_eq :
    (currentSession s o r).runOn m =
      (if lacksSecret s.config r.headers then .error (.ofToken .missingSecret)
        else .ok (r.caller? s o.now m), m) := by
  have unfolded : (currentSession s o r).runOn m = _ :=
    Action.run_bind Memory.answer (s.authenticateHeaders o.now r.headers).run _ m
  have asked : (s.authenticateHeaders o.now r.headers).run.run Memory.answer m =
      (((s.authenticateHeaders o.now r.headers).runOn m).1, m) :=
    Request.runOn_authenticateHeaders
  rw [unfolded, asked, Request.caller?]
  cases lacks : lacksSecret s.config r.headers with
  | true =>
      rw [Service.authenticateHeaders_of_lacksSecret lacks]
      rfl
  | false =>
      cases outcome : ((s.authenticateHeaders o.now r.headers).runOn m).1 with
      | ok p => rfl
      | error e =>
          cases e with
          | internal detail =>
              exact absurd outcome (Service.authenticateHeaders_not_internal lacks detail)
          | unauthenticated | expired | permissionDenied | notFound | invalidArgument => rfl

/-- The error that a login ends with whose credential is refused. -/
def refusalFor (c : Config) (headers : Headers) (arrives : Bool) : Access.Error :=
  if lacksSecret c headers then .ofToken .missingSecret else Service.refusalOf c arrives

/-- Nobody is known by a token that cannot be verified. -/
theorem Request.caller?_of_lacksSecret (lacks : lacksSecret s.config r.headers = true) :
    r.caller? s o.now m = none := by
  rw [caller?, Service.authenticateHeaders_of_lacksSecret lacks]
  rfl

/-- A login whose credential is refused is told so, and the store changes only for the session that
the request arrives with. -/
theorem run_login_of_refused (asked : r.login? = some request)
    (refused : ¬∃ user m', Passes s o.now m request.credential user m') :
    (login s o r).run Memory.answer m =
      (errorResponse (refusalFor s.config r.headers
          ((r.caller? s o.now m).any (·.source == .session))),
        s.storeAfterCurrent m (r.caller? s o.now m)) := by
  rw [run_login asked, runOn_currentSession_eq, refusalFor]
  cases lacks : lacksSecret s.config r.headers with
  | true =>
      rw [Request.caller?_of_lacksSecret lacks]
      rfl
  | false =>
      obtain ⟨cookies, ended⟩ := Service.login_of_refused (r.caller? s o.now m) refused
      simp only [Bool.false_eq_true, if_false]
      rw [ended]
      rfl

/-! ## Two logins -/

/-- Two responses differ at most in the id of the request. -/
structure SameButId (x y : Response) : Prop where
  status : x.status = y.status
  body : x.body = y.body
  headers : x.headers.remove "x-request-id" = y.headers.remove "x-request-id"

namespace App

/-- What two applications of one site add to a response differs at most in the id of the request, and
does not differ when the id was given. -/
theorem finished_alike {a a' : App} (site : a.origin = a'.origin) (headers : r.headers = r'.headers)
    (freshId freshId' : String) (response : Response) :
    SameButId (a.finished freshId r response) (a'.finished freshId' r' response) ∧
      (freshId = freshId' ∨ r.headers.contains "x-request-id" = true →
        a.finished freshId r response = a'.finished freshId' r' response) := by
  have readable : a.readableBySite response = a'.readableBySite response := by
    rw [readableBySite, readableBySite, corsLines, corsLines, site]
  unfold finished
  simp only [readable]
  split
  · exact ⟨⟨rfl, rfl, rfl⟩, fun _ => rfl⟩
  · refine ⟨⟨rfl, rfl, ?_⟩, fun given => ?_⟩
    · rw [Headers.remove_append, Headers.remove_append]
    · have same : ((r.stamped freshId).headers.first? "x-request-id").getD (utf8 freshId) =
          ((r'.stamped freshId').headers.first? "x-request-id").getD (utf8 freshId') := by
        unfold Request.stamped
        rw [← headers]
        rcases given with rfl | named
        · rfl
        · rw [if_pos named, if_pos named]
          rw [← Headers.first?_isSome] at named
          obtain ⟨id, found⟩ := Option.isSome_iff_exists.1 named
          rw [found]
          rfl
      rw [same]

/-- An application is made around its engine, for the site of its public address. -/
theorem of_ofEngine {e : Forward.Engine} {a : App} (made : App.ofEngine e = .ok a) :
    a.engine = e ∧ publicOrigin e.service.config.publicUrl = .ok a.origin := by
  obtain ⟨origin, found, same⟩ := exists_of_bind_eq_ok made
  cases same
  exact ⟨rfl, found⟩

end App

/-- The request asks to log in with a password that is refused. -/
def Request.HasRefusedPassword (r : Request) (s : Service) (m : Memory) : Prop :=
  ∃ request name password, r.login? = some request ∧
    request.credential = .password name password ∧
    m.RefusesPassword s.config.loginByEmail (Text.trim name) password

/-- The application answers a login with a refused password by its settings, the header of the
request and whether a session arrives with it. -/
theorem App.run_serve_of_refused (a : App) (o : Occasion) (freshId : String)
    (endpoint : r.endpoint? = some .login) (refused : r.HasRefusedPassword a.engine.service m) :
    a.response o freshId r m = a.finished freshId r (errorResponse
        (refusalFor a.engine.service.config r.headers
          ((r.caller? a.engine.service o.now m).any (·.source == .session)))) ∧
      m.after (a.serve o freshId r) =
        a.engine.service.storeAfterCurrent m (r.caller? a.engine.service o.now m) := by
  obtain ⟨request, name, password, asked, credential, refuses⟩ := refused
  have refused : ¬∃ user m', Passes a.engine.service o.now m request.credential user m' := by
    rw [credential, Access.passes_password_iff]
    rintro ⟨user, found, fits⟩
    rw [Memory.refusesPassword_iff.1 refuses user found] at fits
    cases fits
  have served := a.run_serve_login o freshId m endpoint
  simp only [run_login_of_refused asked refused] at served
  exact ⟨congrArg (·.1.response) served, congrArg Prod.snd served⟩

/-- Two logins with refused passwords are answered alike, for whatever reasons the passwords are
refused, where the settings are the same but for logins by address, the headers of the requests are
the same and a session arrives with both or with neither.  The responses differ at most in an id that
was made for the request, and each store changes only for the session. -/
theorem refused_logins_alike {e₁ e₂ : Forward.Engine} {a₁ a₂ : App} {byEmail : Bool}
    (made₁ : App.ofEngine e₁ = .ok a₁) (made₂ : App.ofEngine e₂ = .ok a₂)
    (settings : e₂.service.config = { e₁.service.config with loginByEmail := byEmail })
    {r₁ r₂ : Request} (headers : r₁.headers = r₂.headers) (endpoint₁ : r₁.endpoint? = some .login)
    (endpoint₂ : r₂.endpoint? = some .login) {m₁ m₂ : Memory}
    (refused₁ : r₁.HasRefusedPassword e₁.service m₁)
    (refused₂ : r₂.HasRefusedPassword e₂.service m₂) {o₁ o₂ : Occasion}
    (arrives : (r₁.caller? e₁.service o₁.now m₁).any (·.source == .session) =
      (r₂.caller? e₂.service o₂.now m₂).any (·.source == .session)) (freshId₁ freshId₂ : String) :
    SameButId (a₁.response o₁ freshId₁ r₁ m₁) (a₂.response o₂ freshId₂ r₂ m₂) ∧
    (freshId₁ = freshId₂ ∨ r₁.headers.contains "x-request-id" = true →
      a₁.response o₁ freshId₁ r₁ m₁ = a₂.response o₂ freshId₂ r₂ m₂) ∧
    m₁.after (a₁.serve o₁ freshId₁ r₁) =
      e₁.service.storeAfterCurrent m₁ (r₁.caller? e₁.service o₁.now m₁) ∧
    m₂.after (a₂.serve o₂ freshId₂ r₂) =
      e₂.service.storeAfterCurrent m₂ (r₂.caller? e₂.service o₂.now m₂) := by
  obtain ⟨rfl, origin₁⟩ := App.of_ofEngine made₁
  obtain ⟨rfl, origin₂⟩ := App.of_ofEngine made₂
  have site : a₁.origin = a₂.origin := by
    rw [settings] at origin₂
    exact Except.ok.inj (origin₁.symm.trans origin₂)
  obtain ⟨response₁, after₁⟩ := a₁.run_serve_of_refused o₁ freshId₁ endpoint₁ refused₁
  obtain ⟨response₂, after₂⟩ := a₂.run_serve_of_refused o₂ freshId₂ endpoint₂ refused₂
  have error : refusalFor a₂.engine.service.config r₂.headers
        ((r₂.caller? a₂.engine.service o₂.now m₂).any (·.source == .session)) =
      refusalFor a₁.engine.service.config r₁.headers
        ((r₁.caller? a₁.engine.service o₁.now m₁).any (·.source == .session)) := by
    rw [← arrives, ← headers, settings]
    rfl
  obtain ⟨alike, same⟩ := App.finished_alike site headers freshId₁ freshId₂
    (errorResponse (refusalFor a₁.engine.service.config r₁.headers
      ((r₁.caller? a₁.engine.service o₁.now m₁).any (·.source == .session))))
  rw [response₁, response₂, error]
  exact ⟨alike, same, after₁, after₂⟩

/-- The engine of the house where users can log in by their addresses. -/
def addressEngine : Forward.Engine :=
  { Forward.Engine.houseEngine with
    service := { Access.smallService with
      config := { Access.smallService.config with loginByEmail := true } } }

/-- A user of whose password nothing is stored. -/
def bob : Store.User :=
  { Store.User.blank with id := "2", username := "bob" }

/-- Bob's form is answered alike at a house that does not know him and at one that stores nothing of
his password. -/
theorem bobForms_alike :
    ∃ a₁ a₂, App.ofEngine Forward.Engine.houseEngine = .ok a₁ ∧
      App.ofEngine addressEngine = .ok a₂ ∧
      addressEngine.service.config =
        { Forward.Engine.houseEngine.service.config with loginByEmail := true } ∧
      (bobForm .empty).endpoint? = some .login ∧
      (bobForm .empty).HasRefusedPassword Forward.Engine.houseEngine.service
        (Access.smallStore none) ∧
      (bobForm .empty).HasRefusedPassword addressEngine.service
        ((Access.smallStore none).putUser bob) ∧
      SameButId (a₁.response bobOccasion "1" (bobForm .empty) (Access.smallStore none))
        (a₂.response bobOccasion "2" (bobForm .empty)
          ((Access.smallStore none).putUser bob)) := by
  have origin : publicOrigin "http://localhost:8080" = .ok (utf8 "http://localhost:8080") := by
    decide +kernel
  have made {e : Forward.Engine} (address : e.service.config.publicUrl = "http://localhost:8080") :
      App.ofEngine e = .ok ⟨e, Gatehouse.identification, utf8 "http://localhost:8080"⟩ := by
    rw [App.ofEngine, address, origin]
    rfl
  have asked : (bobForm .empty).login? = some bobLogin := bobForm_login? rfl
  have stranger : (bobForm .empty).HasRefusedPassword Forward.Engine.houseEngine.service
      (Access.smallStore none) :=
    ⟨bobLogin, "bob", "shut", asked, rfl, .unknown rfl (.inl rfl)⟩
  have found : ((Access.smallStore none).putUser bob).loginUser? true (Text.trim "bob") =
      some bob := rfl
  have unreadable : (bobForm .empty).HasRefusedPassword addressEngine.service
      ((Access.smallStore none).putUser bob) :=
    ⟨bobLogin, "bob", "shut", asked, rfl, .unreadable found rfl⟩
  have settings : addressEngine.service.config =
      { Forward.Engine.houseEngine.service.config with loginByEmail := true } := rfl
  have nobody (s : Service) (m : Memory) :
      ((bobForm .empty).caller? s bobOccasion.now m).any (·.source == .session) = false := rfl
  have alike := refused_logins_alike (made rfl) (made rfl) settings rfl (bobForm_endpoint? .empty)
    (bobForm_endpoint? .empty) stranger unreadable ((nobody _ _).trans (nobody _ _).symm) "1" "2"
  exact ⟨_, _, made rfl, made rfl, settings, bobForm_endpoint? .empty, stranger, unreadable,
    alike.1⟩

end Gatehouse.Api
