import Gatehouse.Proofs.Access.CookieRoundTrip
import Gatehouse.Proofs.Access.FailedLogin
import Gatehouse.Proofs.Api.Attenuation
import Gatehouse.Proofs.Api.Authority

/-!
# The application - How a login is answered

The answer to a login is told from the run of the step that its body asks for.  A step that ends well
hands all cookies of its run to the browser; a step that fails hands out none, not even those that
drop the session which it has ended.

Main definitions:

- `App.response`: the response of the application.
- `App.finished` and `answered`: what the application adds to a response, and the response to a step
  of a login.

Main results:

- Theorem `run_login` and theorem `App.run_serve_login`: the answer to a login.
- Theorem `App.rejects_after_login`: which logins end the session that they arrive with.
- Theorem `App.ended_session_told`: which of them tell the browser.
-/

namespace Gatehouse.Access

open Http (Headers)
open Store (Memory User)
open Token (AccessSettable Claims RefreshSettable Time)

variable {s : Service} {m m' : Memory} {o : Occasion} {out out' : Headers}
  {request : LoginRequest} {user : User} {claims : Claims}

/-- Who passes does not depend on the ledger. -/
theorem Passes.withRejections {now : Time} {credential : LoginCredential}
    (passes : Passes s now m credential user m')
    (rejections : Register Store.Rejection (·.tokenId)) :
    ∃ m'', Passes s now { m with rejections := rejections } credential user m'' := by
  cases passes with
  | password found fits => exact ⟨_, .password found fits⟩
  | oneTimeCode awaited accepted =>
      exact ⟨_, .oneTimeCode ⟨awaited.pending, awaited.enrolled, awaited.given⟩ accepted⟩
  | recoveryCode awaited refused read left =>
      exact ⟨_, .recoveryCode ⟨awaited.pending, awaited.enrolled, awaited.given⟩ refused read left⟩

/-- Whoever passes before a session ended passes after it, and conversely. -/
theorem exists_passes_withEnded {now : Time} {credential : LoginCredential} {c : Config} :
    (∃ user m', Passes s now (m.withEnded c claims) credential user m') ↔
      ∃ user m', Passes s now m credential user m' := by
  constructor
  · rintro ⟨user, m', passes⟩
    rw [Memory.withEnded_eq] at passes
    exact ⟨user, passes.withRejections m.rejections⟩
  · rintro ⟨user, m', passes⟩
    rw [Memory.withEnded_eq]
    exact ⟨user, passes.withRejections _⟩

namespace Service

/-- A step that concludes well leaves the cookies in the header that there were. -/
theorem conclude_lines {outcome : LoginOutcome}
    (h : (s.conclude o request user).runOn out m = (.ok outcome, out', m')) :
    ∃ more, out'.values "set-cookie" = out.values "set-cookie" ++ more := by
  rcases conclude_cases s o request user with ⟨-, kind, concluded⟩ | ⟨-, concluded⟩
  · rw [concluded] at h
    obtain ⟨session, out₁, m₁, begun, h₁⟩ := CookieFlow.exists_of_bind h
    cases h₁
    obtain ⟨ttl, refreshTtl, lines⟩ := establish_lines begun
    exact ⟨_, lines⟩
  · have kept := (runOn_pendingStep (s := s) o user out m).1
    rw [← concluded, h] at kept
    obtain rfl : out' = out := kept
    exact ⟨[], (List.append_nil _).symm⟩

/-- Where both cookies can be set, the session that a request arrives with ends and both are
cleared. -/
theorem runOn_endCurrent_of_session (access : AccessSettable s.config)
    (refresh : RefreshSettable s.config) (out : Headers) (m : Memory) :
    (s.endCurrent (some ⟨claims, .session⟩)).runOn out m =
      (.ok (), (out.append "set-cookie" (utf8 (Token.clearedAccess s.config).text)).append
        "set-cookie" (utf8 (Token.clearedRefresh s.config).text), m.withEnded s.config claims) := by
  have cleared := Token.clearCookies_run_of_settable access refresh out
  unfold endCurrent
  change CookieFlow.runOn (Flow.withCookies (Flow.fetch (Ledger.endSession s.config claims)) >>=
    fun _ => issuing (Token.clearCookies s.config)) out m = _
  rw [CookieFlow.runOn_bind_ok (runOn_endSession claims), CookieFlow.runOn_issuing, cleared]
  rfl

/-- A login that arrives with a session clears both cookies before it sets any, if its credential
passes; else it is refused. -/
theorem login_of_session (access : AccessSettable s.config) (refresh : RefreshSettable s.config)
    (secret : s.config.key.isEmpty = false) (o : Occasion) (request : LoginRequest) (m : Memory) :
    ((∃ user m', Passes s o.now m request.credential user m') ∧
      ∃ outcome cookies more m',
        (s.login o request (some ⟨claims, .session⟩)).runOn .empty m = (.ok outcome, cookies, m') ∧
        cookies.values "set-cookie" = utf8 (Token.clearedAccess s.config).text ::
          utf8 (Token.clearedRefresh s.config).text :: more) ∨
    ((¬∃ user m', Passes s o.now m request.credential user m') ∧
      ∃ cookies, (s.login o request (some ⟨claims, .session⟩)).runOn .empty m =
        (.error .unauthenticated, cookies, m.withEnded s.config claims)) := by
  rw [login_eq, CookieFlow.runOn_bind_ok (runOn_endCurrent_of_session access refresh .empty m),
    CookieFlow.runOn_bind, CookieFlow.runOn_withCookies]
  by_cases passing : ∃ user m', Passes s o.now (m.withEnded s.config claims) request.credential
    user m'
  · left
    refine ⟨exists_passes_withEnded.1 passing, ?_⟩
    obtain ⟨user, m₁, passes⟩ := passing
    rw [runOn_credentialUser_of_passes passes]
    simp only
    rcases concluded : (s.conclude o request user).runOn _ m₁ with ⟨r, cookies, m₂⟩
    cases r with
    | ok outcome =>
        obtain ⟨more, lines⟩ := conclude_lines concluded
        exact ⟨outcome, cookies, more, m₂, rfl, lines⟩
    | error e =>
        have failed := (conclude_error_iff secret o request user _ m₁).1
          ⟨e, congrArg Prod.fst concluded⟩
        exact absurd ⟨access, fun _ => refresh⟩ failed.2
  · right
    refine ⟨mt exists_passes_withEnded.2 passing, ?_⟩
    rw [runOn_credentialUser_of_refused fun user m' passes => passing ⟨user, m', passes⟩]
    exact ⟨_, rfl⟩

end Service

end Gatehouse.Access

namespace Gatehouse.Api

open Access (CookieFlow Flow LoginOutcome LoginRequest Occasion Passes Principal Service)
open Http (Headers Response)
open Store (Action Memory)
open Token (AccessSettable Claims RefreshSettable)

variable {s : Service} {o : Occasion} {r : Request} {m : Memory} {freshId : String}
  {request : LoginRequest}

/-! ## The application around a response -/

namespace App

/-- The response of the application. -/
def response (a : App) (o : Occasion) (freshId : String) (r : Request) (m : Memory) : Response :=
  ((a.serve o freshId r).run Memory.answer m).1.response

/-- A response as it leaves the application: pages of the site may read it, and it carries the id of
the request. -/
def finished (a : App) (freshId : String) (r : Request) (response : Response) : Response :=
  let readable := a.readableBySite response
  if readable.headers.contains "x-request-id" then readable
  else { readable with
    headers := readable.headers.append "x-request-id"
      (((r.stamped freshId).headers.first? "x-request-id").getD (utf8 freshId)) }

/-- The application finishes the response of the endpoint. -/
theorem run_serve (a : App) (o : Occasion) (freshId : String) (r : Request) (m : Memory) :
    (a.serve o freshId r).run Memory.answer m =
      let served := (a.route o (r.stamped freshId)).run Memory.answer m
      ({ served.1 with response := a.finished freshId r served.1.response }, served.2) :=
  Action.run_bind Memory.answer (a.route o (r.stamped freshId)) _ m

/-- What the application adds to a response are no cookies. -/
theorem finished_cookies (a : App) (freshId : String) (r : Request) (response : Response) :
    (a.finished freshId r response).headers.values "set-cookie" =
      response.headers.values "set-cookie" := by
  have readable : (a.readableBySite response).headers.values "set-cookie" =
      response.headers.values "set-cookie" := by
    have other : a.corsLines.contains "set-cookie" = false := rfl
    rw [readableBySite, Headers.values_extend, other, if_neg Bool.false_ne_true,
      Headers.values_append_of_ne (by decide)]
  unfold finished
  simp only
  split
  · exact readable
  · rw [Headers.values_append_of_ne (by decide), readable]

theorem finished_status (a : App) (freshId : String) (r : Request) (response : Response) :
    (a.finished freshId r response).status = response.status := by
  unfold finished
  simp only
  split <;> rfl

end App

/-! ## Steps of a login -/

/-- The response to a run of a step of a login. -/
def answered (outcome : Except Access.Error LoginOutcome) (cookies : Headers) : Response :=
  match outcome with
  | .ok outcome => loginResponse outcome cookies
  | .error e => errorResponse e

/-- The body asks for a step of a login, which is taken once the session is known that the request
arrives with. -/
theorem run_login (asked : r.login? = some request) :
    (login s o r).run Memory.answer m =
      match (currentSession s o r).runOn m with
      | (.ok current, m₁) =>
        let ended := (s.login o request current).runOn .empty m₁
        (answered ended.1 ended.2.1, ended.2.2)
      | (.error e, m₁) => (errorResponse e, m₁) := by
  have responded (x : CookieFlow LoginOutcome) :
      (respondWithCookies x loginResponse).run Memory.answer m =
        let ended := x.runOn .empty m
        (answered ended.1 ended.2.1, ended.2.2) := by
    refine (Action.run_bind Memory.answer (x.run.run .empty) _ m).trans ?_
    unfold CookieFlow.runOn
    rcases (x.run.run .empty).run Memory.answer m with ⟨⟨outcome, cookies⟩, m'⟩
    cases outcome <;> rfl
  unfold Request.login? at asked
  unfold login
  cases read : readForm loginForm r with
  | error refused =>
      rw [read] at asked
      cases asked
  | ok form =>
      cases form with
      | none =>
          rw [read] at asked
          cases asked
      | some form =>
          simp only [read] at asked
          have parsed : CookieFlow.runOn (ExceptT.mk (pure (loginRequest form))) .empty m =
              (.ok request, .empty, m) := by
            have made : loginRequest form = .ok request := by
              cases made : loginRequest form with
              | error e =>
                  rw [made] at asked
                  cases asked
              | ok request' =>
                  rw [made] at asked
                  cases asked
                  rfl
            rw [made]
            rfl
          simp only [responded]
          rw [CookieFlow.runOn_bind_ok parsed, CookieFlow.runOn_bind, CookieFlow.runOn_withCookies]
          rcases (currentSession s o r).runOn m with ⟨current, m₁⟩
          cases current <;> rfl

/-- A request whose body asks for no step changes nothing. -/
theorem after_login_of_none (asked : r.login? = none) : m.after (login s o r) = m := by
  unfold Request.login? at asked
  unfold login
  cases read : readForm loginForm r with
  | error refused => rfl
  | ok form =>
      simp only [after_respondWithCookies]
      cases form with
      | none => rfl
      | some form =>
          simp only [read] at asked
          have parsed : CookieFlow.runOn (ExceptT.mk (pure (loginRequest form))) .empty m =
              (loginRequest form, .empty, m) := rfl
          rw [CookieFlow.runOn_bind, parsed]
          cases made : loginRequest form with
          | error e => rfl
          | ok request =>
              rw [made] at asked
              cases asked

/-- The id of a request does not matter for a login. -/
theorem Request.login_stamped : login s o (r.stamped freshId) = login s o r := by
  have current : currentSession s o (r.stamped freshId) = currentSession s o r := by
    unfold currentSession Service.authenticateHeaders
    rw [stamped_ofHeaders?]
  unfold login
  rw [readForm_stamped, current]

/-- The application answers a login as its endpoint does. -/
theorem App.run_serve_login (a : App) (o : Occasion) (freshId : String) (m : Memory)
    (endpoint : r.endpoint? = some .login) :
    (a.serve o freshId r).run Memory.answer m =
      let ended := (login a.engine.service o r).run Memory.answer m
      (.plain (a.finished freshId r ended.1), ended.2) := by
  have method : r.method = "POST" := by
    simpa [Endpoint.methods] using Request.method_of_endpoint? endpoint
  obtain ⟨found, -⟩ := Option.filter_eq_some_iff.1 endpoint
  have routed : a.route o (r.stamped freshId) =
      (login a.engine.service o r >>= fun response => Action.done (Served.plain response)) := by
    have path : Endpoint.ofPath? (String.ofList
        ((r.stamped freshId).target.toList.takeWhile (· != '?'))) = some .login := found
    have posted : (r.stamped freshId).method = "POST" := method
    have taken : Endpoint.login.methods.contains "POST" = true := rfl
    have options : ("POST" == "OPTIONS") = false := rfl
    have head : ("POST" == "HEAD") = false := rfl
    unfold route
    rw [path]
    simp only [posted, taken, options, head, if_true, Bool.false_eq_true, if_false]
    rw [Endpoint.serve, Request.login_stamped]
    exact Action.bind_done _
  rw [run_serve, routed, Action.bind_eq, Action.run_bind]
  rfl

/-! ## Sessions that a login ends -/

/-- The session of an accepted token was signed with a secret and has not ended. -/
theorem Request.signed_of_caller? {now : Token.Time} {claims : Claims}
    (session : r.caller? s now m = some ⟨claims, .session⟩) :
    s.config.key.isEmpty = false ∧ m.rejects claims = false := by
  have accepted := congrArg Prod.fst (runOn_of_caller? session)
  obtain ⟨credential, -, known⟩ := Service.exists_of_authenticateHeaders accepted
  cases credential with
  | signed token =>
      obtain ⟨claims', verified, -, kept, same⟩ := Service.authenticateSigned_ok known
      obtain rfl : claims = claims' := congrArg Principal.claims same
      exact ⟨Token.secret_of_verify verified, kept⟩
  | api token =>
      obtain ⟨stored, user, -, -, -, same⟩ := Service.authenticateApi_ok known
      cases congrArg Principal.source same

/-- A session that ended is in the ledger. -/
theorem rejects_withEnded (m : Memory) (c : Config) (claims : Claims) :
    (m.withEnded c claims).rejects claims = true := by
  have row : ((m.withEnded c claims).rejections.find? claims.id).isSome = true := by
    rw [Memory.find?_withEnded]
    split
    · rfl
    · rw [if_pos rfl]
      rfl
  rw [Memory.rejects, Register.contains_eq_isSome, row, Bool.true_or]

/-- The response to a step that ends well has the cookies of the step and tells of success. -/
theorem loginResponse_of_cookies (outcome : Access.LoginOutcome) {cookies : Headers}
    {first : Bytes} {more : List Bytes} (set : cookies.values "set-cookie" = first :: more) :
    (loginResponse outcome cookies).headers.values "set-cookie" = first :: more ∧
      ((loginResponse outcome cookies).status = 200 ∨
        (loginResponse outcome cookies).status = 202) := by
  have named : cookies.contains "set-cookie" = true := by
    refine Headers.contains_of_mem_values (?_ : first ∈ cookies.values "set-cookie")
    rw [set]
    exact List.mem_cons_self
  have kept : (Headers.extend (Response.typed "application/json") cookies).values "set-cookie" =
      first :: more := by
    rw [Headers.values_extend, named, if_pos rfl, set]
  cases outcome with
  | secondFactorRequired pendingToken => exact ⟨kept, .inr rfl⟩
  | established session => exact ⟨kept, .inl rfl⟩

namespace App

/-- A login that arrives with a session is answered from the run of the step that its body asks
for. -/
theorem login_of_session (a : App) (o : Occasion) (freshId : String) {claims : Claims}
    (endpoint : r.endpoint? = some .login)
    (session : r.caller? a.engine.service o.now m = some ⟨claims, .session⟩)
    (asked : r.login? = some request) :
    let ended := (a.engine.service.login o request (some ⟨claims, .session⟩)).runOn .empty m
    a.response o freshId r m = a.finished freshId r (answered ended.1 ended.2.1) ∧
      m.after (a.serve o freshId r) = ended.2.2 := by
  have served := a.run_serve_login o freshId m endpoint
  simp only [run_login asked, runOn_currentSession_of_caller? session] at served
  exact ⟨congrArg (·.1.response) served, congrArg Prod.snd served⟩

/-- A login puts the session that it arrives with into the ledger when its body asks for a step. -/
theorem rejects_after_login (a : App) (o : Occasion) (freshId : String)
    {claims : Claims} (endpoint : r.endpoint? = some .login)
    (session : r.caller? a.engine.service o.now m = some ⟨claims, .session⟩) :
    (m.after (a.serve o freshId r)).rejects claims = true ↔ ∃ request, r.login? = some request := by
  constructor
  · intro ended
    cases asked : r.login? with
    | some request => exact ⟨request, rfl⟩
    | none =>
        have kept : m.after (a.serve o freshId r) = m :=
          (congrArg Prod.snd (a.run_serve_login o freshId m endpoint)).trans
            (after_login_of_none asked)
        rw [kept, (Request.signed_of_caller? session).2] at ended
        cases ended
  · rintro ⟨request, asked⟩
    rw [(a.login_of_session o freshId endpoint session asked).2, Memory.rejects,
      Service.login_rejections]
    exact rejects_withEnded m a.engine.service.config claims

/-- A step that ends well is a success, and its cookies are those of the response. -/
theorem finished_loginResponse (a : App) (freshId : String) (r : Request)
    (outcome : LoginOutcome) {cookies : Headers} {first : Bytes} {more : List Bytes}
    (set : cookies.values "set-cookie" = first :: more) :
    (a.finished freshId r (loginResponse outcome cookies)).headers.values "set-cookie" =
        first :: more ∧
      (a.finished freshId r (loginResponse outcome cookies)).isSuccess = true := by
  obtain ⟨kept, status⟩ := loginResponse_of_cookies outcome set
  refine ⟨(a.finished_cookies freshId r _).trans kept, ?_⟩
  rw [Response.isSuccess, finished_status]
  rcases status with status | status <;> rw [status] <;> rfl

/-- A login that arrives with a session puts it into the ledger when its body asks for a step.  Where
both cookies can be set, the response clears both before it sets others if and only if it tells of
success, and that is when the credential passes; a login that is refused has ended the session too, and
sets and clears no cookies. -/
theorem ended_session_told (a : App) (o : Occasion) (freshId : String) (r : Request)
    (m : Memory) {claims : Claims} (endpoint : r.endpoint? = some .login)
    (session : r.caller? a.engine.service o.now m = some ⟨claims, .session⟩)
    (access : AccessSettable a.engine.service.config)
    (refresh : RefreshSettable a.engine.service.config) :
    let c := a.engine.service.config
    let response := a.response o freshId r m
    let passes (request : LoginRequest) :=
      ∃ user m', Passes a.engine.service o.now m request.credential user m'
    ((m.after (a.serve o freshId r)).rejects claims = true ↔ ∃ request, r.login? = some request) ∧
    ∀ request, r.login? = some request →
      ((∃ more, response.headers.values "set-cookie" = utf8 (Token.clearedAccess c).text ::
          utf8 (Token.clearedRefresh c).text :: more) ↔ passes request) ∧
      (response.isSuccess = true ↔ passes request) ∧
      (¬passes request →
        response.status = 401 ∧ response.headers.values "set-cookie" = []) := by
  intro c response passes
  refine ⟨a.rejects_after_login o freshId endpoint session, fun request asked => ?_⟩
  have answer := (a.login_of_session o freshId endpoint session asked).1
  rcases Service.login_of_session access refresh (Request.signed_of_caller? session).1 o request m
    with ⟨passing, outcome, cookies, more, m', ended, lines⟩ | ⟨failing, cookies, ended⟩
  · rw [ended] at answer
    obtain ⟨told, success⟩ := a.finished_loginResponse freshId r outcome lines
    have answer : response = a.finished freshId r (loginResponse outcome cookies) := answer
    rw [← answer] at told success
    exact ⟨iff_of_true ⟨more, told⟩ passing, iff_of_true success passing, fun h => absurd passing h⟩
  · rw [ended] at answer
    have answer : response = a.finished freshId r (errorResponse .unauthenticated) := answer
    have status : response.status = 401 := by
      rw [answer, finished_status]
      rfl
    have silent : response.headers.values "set-cookie" = [] := by
      rw [answer, finished_cookies]
      rfl
    refine ⟨iff_of_false ?_ failing, iff_of_false ?_ failing, fun _ => ⟨status, silent⟩⟩
    · rintro ⟨more, told⟩
      rw [silent] at told
      cases told
    · rw [Response.isSuccess, status]
      decide

end App

/-- A login with the name `bob` and the password `shut`. -/
def bobForm (headers : Headers) : Request :=
  ⟨"POST", "/v1/auth/login", headers.append "content-type" (utf8 "application/json"),
    utf8 "[\"bob\",\"shut\",null,null,null,false,null]", none⟩

/-- When the form arrives, and the ids of the tokens for it. -/
def bobOccasion : Occasion :=
  ⟨1010, "a", "b", "c", "d", []⟩

/-- The step that the form asks for. -/
def bobLogin : LoginRequest :=
  ⟨.password "bob" "shut", 0, true, none⟩

theorem bobForm_endpoint? (headers : Headers) : (bobForm headers).endpoint? = some .login := by
  show (Endpoint.ofPath? (String.ofList ("/v1/auth/login".toList.takeWhile (· != '?')))).filter
    (fun endpoint => endpoint.methods.contains "POST" && "POST" != "OPTIONS") = some .login
  decide +kernel

theorem bobForm_login? {headers : Headers} (untyped : headers.values "content-type" = []) :
    (bobForm headers).login? = some bobLogin := by
  have typed : (bobForm headers).headers.first? "content-type" =
      some (utf8 "application/json") := by
    rw [bobForm, Headers.first?, Headers.values_append, untyped]
    rfl
  have json : ((Http.readable? (utf8 "application/json")).bind
      Http.MediaType.ofText?).any (·.isJson) = true := by decide +kernel
  have short : ¬(bobForm headers).body.length > bodyLimit := by
    have counted : (utf8 "[\"bob\",\"shut\",null,null,null,false,null]").length = 40 := by
      decide +kernel
    show ¬(utf8 "[\"bob\",\"shut\",null,null,null,false,null]").length > bodyLimit
    rw [counted]
    decide
  have read : Json.Form.read loginForm (bobForm headers).body = .ok ⟨[("username", .text "bob"),
      ("password", .text "shut"), ("pending_token", .absent), ("code", .absent),
      ("ttl", .absent), ("no_refresh_token", .flag false), ("requested_redirect", .absent)]⟩ := by
    have scanned : Json.Form.scanFields loginForm (Json.skipGap
        "[\"bob\",\"shut\",null,null,null,false,null]".toList) = .ok ([("username", .text "bob"),
          ("password", .text "shut"), ("pending_token", .absent), ("code", .absent),
          ("ttl", .absent), ("no_refresh_token", .flag false), ("requested_redirect", .absent)],
          []) := by
      decide +kernel
    rw [bobForm, Json.Form.read, textMarking]
    simp only [text?_utf8]
    rw [scanned]
    rfl
  unfold Request.login? readForm
  simp only [typed, json, if_true, if_neg short, read]
  rfl

/-- A token in the cookie of access tokens is presented, also with a form. -/
theorem ofHeaders?_bobForm {c : Token.Algorithm} {secret : Bytes} {claims : Claims} {token : String}
    (signed : Token.sign c secret claims = .ok token) {name : String} (plain : Http.IsPairText name) :
    Access.PresentedToken.ofHeaders?
      (bobForm ⟨[("cookie", utf8 (name ++ "=" ++ token))]⟩).headers name =
        some (.signed token) := by
  obtain ⟨pair, given⟩ := Token.isPairText_of_sign signed
  have bare : Http.bearer? ⟨[("cookie", utf8 (name ++ "=" ++ token))]⟩ = none := rfl
  rw [bobForm, Access.PresentedToken.ofHeaders?, Http.bearer?_append_of_ne (by decide),
    Http.Cookie.find?_append_of_ne (by decide), bare, Http.Cookie.find?_of_pair plain pair given,
    Option.none_or, Option.map_some, Access.PresentedToken.ofText_signed signed]

/-- Alice's browser sends the form of somebody whom nobody knows.  Her session has ended, and the
response leaves the cookies of the session where they are. -/
theorem aliceSession_ended_untold :
    ∃ token claims,
      let r := bobForm
        ⟨[("cookie", utf8 (houseApp.engine.service.config.accessCookie ++ "=" ++ token))]⟩
      let m := Access.smallStore none
      r.endpoint? = some .login ∧
      r.caller? houseApp.engine.service 1010 m = some ⟨claims, .session⟩ ∧
      AccessSettable houseApp.engine.service.config ∧
      RefreshSettable houseApp.engine.service.config ∧
      (m.after (houseApp.serve bobOccasion "1" r)).rejects claims = true ∧
      (houseApp.response bobOccasion "1" r m).status = 401 ∧
      (houseApp.response bobOccasion "1" r m).headers.values "set-cookie" =
        [] := by
  obtain ⟨token, signed⟩ := Token.exists_sign (a := Access.smallService.config.algorithm)
    Access.smallService_canIssue.secret Access.aliceSession.claims
  have verified : Token.verify houseApp.engine.service.config.key 1010 token =
      .ok Access.aliceSession.claims :=
    Token.verify_newClaims (by decide) (by decide) signed (by decide) (by decide)
  refine ⟨token, Access.aliceSession.claims, ?_⟩
  intro r m
  have endpoint := bobForm_endpoint?
    ⟨[("cookie", utf8 (houseApp.engine.service.config.accessCookie ++ "=" ++ token))]⟩
  have session : r.caller? houseApp.engine.service 1010 m =
      some ⟨Access.aliceSession.claims, .session⟩ := by
    have presented : Access.PresentedToken.ofHeaders? r.headers
        houseApp.engine.service.config.accessCookie = some (.signed token) :=
      ofHeaders?_bobForm signed (by decide)
    have accepted : (houseApp.engine.service.authenticateSigned 1010 token).runOn m =
        (.ok Access.aliceSession, m) := by
      rw [Service.runOn_authenticateSigned, verified]
      rfl
    rw [Request.caller?, Service.authenticateHeaders, presented]
    exact congrArg (·.1.toOption) accepted
  have anywhere := Access.Service.smallService_cookieSettings.domain
  have access : AccessSettable houseApp.engine.service.config := ⟨by decide, anywhere⟩
  have refresh : RefreshSettable houseApp.engine.service.config := ⟨by decide, by decide, anywhere⟩
  have asked : r.login? = some bobLogin := bobForm_login? rfl
  obtain ⟨ended, told⟩ := houseApp.ended_session_told bobOccasion "1" r m endpoint
    session access refresh
  have stranger : ¬∃ user m', Passes houseApp.engine.service 1010 m bobLogin.credential user m' := by
    intro passing
    obtain ⟨user, found, -⟩ := Access.passes_password_iff.1 passing
    have unknown : m.loginUser? houseApp.engine.service.config.loginByEmail (Text.trim "bob") =
        none := by rfl
    rw [unknown] at found
    cases found
  have silent := (told bobLogin asked).2.2 stranger
  exact ⟨endpoint, session, access, refresh, ended.2 ⟨bobLogin, asked⟩, silent⟩

end Gatehouse.Api
