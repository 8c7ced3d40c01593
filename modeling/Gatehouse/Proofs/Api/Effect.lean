import Gatehouse.Api.App
import Gatehouse.Proofs.Access.ApiTokens
import Gatehouse.Proofs.Access.Login
import Gatehouse.Proofs.Forward.Engine
import Gatehouse.Proofs.Http.Cookie

/-!
# The application - What a request does to the store

A request that arrives at the application does one of a few things to the store, and most requests do
nothing at all.  What it does is told here once, from the principal whose credential the request
presents, so that no later proof opens an endpoint.

Main definitions:

- `Memory.after`: the store after an action.
- `Request.endpoint?`, `Request.caller?` and `Request.login?`: which endpoint answers a request, whose
  credential it presents and which step of a login its body asks for.
- `Effect`: what a request does to the store.

Main results:

- Theorem `effect_endpoint`: what each endpoint does.
- Theorem `App.effect_serve`: what the application does.
-/

namespace Gatehouse.Store.Memory

variable {α β : Type} {m : Memory}

/-- The store after an action. -/
def after (m : Memory) (x : Action α) : Memory :=
  (x.run Memory.answer m).2

/-- What follows an action without asking anything leaves the store as the action does. -/
theorem after_bind {x : Action α} {f : α → Action β} (quiet : ∀ a, ∃ b, f a = .done b) :
    m.after (x >>= f) = m.after x := by
  rw [after, Action.bind_eq, Action.run_bind]
  obtain ⟨b, hb⟩ := quiet (x.run Memory.answer m).1
  rw [hb]
  rfl

end Gatehouse.Store.Memory

namespace Gatehouse.Api

open Access (CookieFlow Flow LoginRequest Occasion Principal Service grantedRoles)
open Store (Action Asking Memory)
open Token (Claims Time)

variable {s : Service} {o : Occasion} {r : Request} {m : Memory} {now : Time} {freshId : String}

namespace Request

/-- The endpoint that answers a request: there is one at the path and it takes the method. -/
def endpoint? (r : Request) : Option Endpoint :=
  (Endpoint.ofPath? (String.ofList (r.target.toList.takeWhile (· != '?')))).filter fun endpoint =>
    endpoint.methods.contains r.method && r.method != "OPTIONS"

/-- The principal whose credential a request presents, if it presents one that is accepted. -/
def caller? (r : Request) (s : Service) (now : Time) (m : Memory) : Option Principal :=
  ((s.authenticateHeaders now r.headers).runOn m).1.toOption

/-- The step of a login that the body of a request asks for. -/
def login? (r : Request) : Option LoginRequest :=
  match readForm loginForm r with
  | .ok (some form) => (loginRequest form).toOption
  | _ => none

/-- The request with an id, which it is given if it has none. -/
def stamped (r : Request) (freshId : String) : Request :=
  { r with headers :=
      if r.headers.contains "x-request-id" then r.headers
      else r.headers.append "x-request-id" (utf8 freshId) }

/-! ## The id of a request -/

/-- The id of a request is no credential. -/
theorem stamped_ofHeaders? (cookieName : String) :
    Access.PresentedToken.ofHeaders? (r.stamped freshId).headers cookieName =
      Access.PresentedToken.ofHeaders? r.headers cookieName := by
  unfold stamped
  split
  · rfl
  · unfold Access.PresentedToken.ofHeaders?
    rw [Http.bearer?_append_of_ne (by decide), Http.Cookie.find?_append_of_ne (by decide)]

theorem stamped_caller? : (r.stamped freshId).caller? s now m = r.caller? s now m := by
  unfold caller? Service.authenticateHeaders
  rw [stamped_ofHeaders?]

/-- The id of a request says nothing about its body. -/
theorem readForm_stamped (specs : List Json.FieldSpec) :
    readForm specs (r.stamped freshId) = readForm specs r := by
  have typed : (r.stamped freshId).headers.first? "content-type" =
      r.headers.first? "content-type" := by
    unfold stamped
    split
    · rfl
    · exact Http.Headers.first?_append_of_ne (by decide) _ _
  unfold readForm
  rw [typed]
  rfl

theorem stamped_login? : (r.stamped freshId).login? = r.login? := by
  unfold login?
  rw [readForm_stamped]

/-! ## The caller -/

/-- Finding out whose credential it is leaves the store as it is. -/
theorem runOn_authenticateHeaders :
    (s.authenticateHeaders now r.headers).runOn m =
      (((s.authenticateHeaders now r.headers).runOn m).1, m) :=
  Prod.ext rfl (Service.authenticateHeaders_keeps (id : Memory → Memory) now r.headers m)

/-- A request presents the credential of a principal when it is accepted for that principal. -/
theorem runOn_of_caller? {p : Principal} (h : r.caller? s now m = some p) :
    (s.authenticateHeaders now r.headers).runOn m = (.ok p, m) := by
  rw [runOn_authenticateHeaders]
  unfold caller? at h
  cases outcome : ((s.authenticateHeaders now r.headers).runOn m).1 with
  | error e =>
      rw [outcome] at h
      cases h
  | ok q =>
      rw [outcome] at h
      cases h
      rfl

/-- Whoever has no accepted credential is refused. -/
theorem runOn_of_no_caller (h : r.caller? s now m = none) :
    ∃ e, (s.authenticateHeaders now r.headers).runOn m = (.error e, m) := by
  rw [runOn_authenticateHeaders]
  unfold caller? at h
  cases outcome : ((s.authenticateHeaders now r.headers).runOn m).1 with
  | error e => exact ⟨e, rfl⟩
  | ok p =>
      rw [outcome] at h
      cases h

end Request

/-! ## Responses -/

/-- The response of a flow leaves the store as the flow does. -/
theorem after_respond {α : Type} (x : Flow α) (answer : α → Http.Response) :
    m.after (respond x answer) = (x.runOn m).2 := by
  apply Memory.after_bind
  intro outcome
  cases outcome with
  | ok a => exact ⟨_, rfl⟩
  | error e => exact ⟨_, rfl⟩

/-- The response of a cookie flow leaves the store as the flow does. -/
theorem after_respondWithCookies {α : Type} (x : CookieFlow α)
    (answer : α → Http.Headers → Http.Response) :
    m.after (respondWithCookies x answer) = (x.runOn .empty m).2.2 := by
  apply Memory.after_bind
  rintro ⟨outcome, cookies⟩
  cases outcome with
  | ok a => exact ⟨_, rfl⟩
  | error e => exact ⟨_, rfl⟩

/-- A flow that begins with finding out who the caller is goes on from the same store. -/
theorem memory_of_caller {α : Type} {f : Principal → Flow α} {P : Memory → Prop} (refused : P m)
    (accepted : ∀ p, r.caller? s now m = some p → P ((f p).runOn m).2) :
    P ((s.authenticateHeaders now r.headers >>= f).runOn m).2 := by
  cases caller : r.caller? s now m with
  | none =>
      obtain ⟨e, he⟩ := Request.runOn_of_no_caller caller
      rw [Flow.runOn_bind, he]
      exact refused
  | some p =>
      rw [Flow.runOn_bind_ok (Request.runOn_of_caller? caller)]
      exact accepted p caller

/-! ## Effects -/

/-- What a request does to the store. -/
inductive Effect (s : Service) (o : Occasion) (r : Request) (m : Memory) : Memory → Prop where
  | nothing : Effect s o r m m
  /-- The session of the caller ends. -/
  | loggedOut {claims : Claims} (endpoint : r.endpoint? = some .logout)
      (caller : r.caller? s o.now m = some ⟨claims, .session⟩) :
      Effect s o r m (m.withEnded s.config claims)
  /-- The session that a login arrives with ends, if it arrives with one. -/
  | loggedIn (endpoint : r.endpoint? = some .login) :
      Effect s o r m (s.storeAfterCurrent m (r.caller? s o.now m))
  /-- That, and the login takes a recovery code. -/
  | redeemed {request : LoginRequest} {userId digest : String}
      (endpoint : r.endpoint? = some .login) (asked : r.login? = some request)
      (spends : s.SpendsCode o.now m request userId digest) :
      Effect s o r m
        ((s.storeAfterCurrent m (r.caller? s o.now m)).takeRecoveryCode userId digest).2
  /-- An API token is made with roles that its user has. -/
  | made {p : Principal} {wanted : Option (List String)} {granted : List Store.Role}
      {expiresAt : Option Time} {description : String}
      (endpoint : r.endpoint? = some .apiTokens) (method : r.method = "POST")
      (caller : r.caller? s o.now m = some p) (session : p.isApiToken = false)
      (future : expiresAt.any (· ≤ o.now) = false)
      (chosen : grantedRoles (m.rolesOf (m.assignments.find? p.userId)) wanted = .ok granted) :
      Effect s o r m (m.withApiToken (p.newRecord o expiresAt description) (granted.map (·.id)))
  /-- An API token of the caller is deleted. -/
  | deleted {p : Principal} {escapedId tokenId : String}
      (endpoint : r.endpoint? = some (.apiToken escapedId))
      (named : text? (Percent.decode (utf8 escapedId)) = some tokenId)
      (caller : r.caller? s o.now m = some p) (owns : m.ownsApiToken p.userId tokenId = true) :
      Effect s o r m (m.withoutApiToken tokenId)

/-- A request that is given an id does what it did before. -/
theorem Effect.of_stamped {m' : Memory} (h : Effect s o (r.stamped freshId) m m') :
    Effect s o r m m' := by
  have caller : (r.stamped freshId).caller? s o.now m = r.caller? s o.now m :=
    Request.stamped_caller?
  cases h with
  | nothing => exact .nothing
  | loggedOut endpoint called => exact .loggedOut endpoint (caller.symm.trans called)
  | loggedIn endpoint =>
      rw [caller]
      exact .loggedIn endpoint
  | redeemed endpoint asked spends =>
      rw [caller]
      exact .redeemed endpoint (Request.stamped_login?.symm.trans asked) spends
  | made endpoint method called session future chosen =>
      exact .made endpoint method (caller.symm.trans called) session future chosen
  | deleted endpoint named called owns =>
      exact .deleted endpoint named (caller.symm.trans called) owns

/-! ## Endpoints -/

/-- Asking for the health of the service changes nothing. -/
theorem after_health (i : Identification) (method : String) : m.after (health i method) = m := by
  refine (Memory.after_bind fun healthy => ?_).trans rfl
  simp only
  split
  · exact ⟨_, rfl⟩
  · exact ⟨_, rfl⟩

/-- A request with a credential that is accepted arrives with its principal. -/
theorem runOn_currentSession_of_caller? {p : Principal} (h : r.caller? s o.now m = some p) :
    (currentSession s o r).runOn m = (.ok (some p), m) := by
  have asked : (s.authenticateHeaders o.now r.headers).run.run Memory.answer m = _ :=
    Request.runOn_of_caller? h
  refine (Action.run_bind Memory.answer (s.authenticateHeaders o.now r.headers).run _ m).trans ?_
  rw [asked]
  rfl

/-- The session that a request arrives with is that of its caller. -/
theorem runOn_currentSession :
    (currentSession s o r).runOn m = (.ok (r.caller? s o.now m), m) ∨
      ∃ e, (currentSession s o r).runOn m = (.error e, m) := by
  have unfolded : (currentSession s o r).runOn m = _ :=
    Action.run_bind Memory.answer (s.authenticateHeaders o.now r.headers).run _ m
  cases caller : r.caller? s o.now m with
  | some p => exact .inl (runOn_currentSession_of_caller? caller)
  | none =>
      obtain ⟨e, he⟩ := Request.runOn_of_no_caller caller
      have asked : (s.authenticateHeaders o.now r.headers).run.run Memory.answer m = _ := he
      rw [unfolded, asked]
      cases e with
      | internal detail => exact .inr ⟨_, rfl⟩
      | unauthenticated | expired | permissionDenied | notFound | invalidArgument =>
          exact .inl rfl

/-- What a login does. -/
theorem effect_login (endpoint : r.endpoint? = some .login) :
    Effect s o r m (m.after (login s o r)) := by
  unfold login
  cases read : readForm loginForm r with
  | error refused => exact .nothing
  | ok form =>
      simp only [after_respondWithCookies]
      cases form with
      | none => exact .nothing
      | some form =>
          simp only
          have parsed : CookieFlow.runOn (ExceptT.mk (pure (loginRequest form))) .empty m =
              (loginRequest form, .empty, m) := rfl
          rw [CookieFlow.runOn_bind, parsed]
          cases asked : loginRequest form with
          | error e => exact .nothing
          | ok request =>
              have asks : r.login? = some request := by
                rw [Request.login?, read]
                simp only [asked]
                rfl
              simp only
              rw [CookieFlow.runOn_bind, CookieFlow.runOn_withCookies]
              rcases runOn_currentSession (s := s) (o := o) (r := r) (m := m) with
                current | ⟨e, refused⟩
              · rw [current]
                simp only
                rcases s.login_memory .empty m request (r.caller? s o.now m) with
                  kept | ⟨userId, digest, spends, taken⟩
                · rw [kept]
                  exact .loggedIn endpoint
                · rw [taken]
                  exact .redeemed endpoint asks spends
              · rw [refused]
                exact .nothing

/-- A refresh changes nothing. -/
theorem after_refresh : m.after (refresh s o r) = m := by
  unfold refresh
  cases readForm refreshForm r with
  | error refused => rfl
  | ok form =>
      simp only [after_respondWithCookies]
      exact Service.refresh_keeps (id : Memory → Memory) _ _ _ _

/-- What a logout does. -/
theorem effect_logout (endpoint : r.endpoint? = some .logout) :
    Effect s o r m (m.after (logout s o r)) := by
  unfold logout
  simp only [after_respondWithCookies]
  rw [CookieFlow.runOn_bind, CookieFlow.runOn_withCookies]
  cases caller : r.caller? s o.now m with
  | none =>
      obtain ⟨e, he⟩ := Request.runOn_of_no_caller caller
      rw [he]
      exact .nothing
  | some p =>
      rw [Request.runOn_of_caller? caller]
      simp only [Service.logout_memory]
      obtain ⟨claims, source⟩ := p
      cases source with
      | session => exact .loggedOut endpoint caller
      | apiToken id roles => exact .nothing

/-- Telling users about themselves changes nothing. -/
theorem after_introspect : m.after (introspect s o r) = m := by
  unfold introspect
  simp only [after_respond]
  refine memory_of_caller (P := fun m' => m' = m) rfl fun p _ => ?_
  refine (?_ : Flow.Keeps (id : Memory → Memory) p.profile) m
  exact (Flow.activeUser_keeps id _).bind fun user =>
    (Flow.keeps_lookup? fun _ => rfl).bind fun email =>
      (Flow.keeps_fetch fun _ => rfl).bind fun roles => Flow.keeps_pure _

/-- What a request for a new API token does. -/
theorem effect_generateApiToken (endpoint : r.endpoint? = some .apiTokens)
    (method : r.method = "POST") : Effect s o r m (m.after (generateApiToken s o r)) := by
  unfold generateApiToken
  cases readForm apiTokenForm r with
  | error refused => exact .nothing
  | ok form =>
      simp only [after_respond]
      refine memory_of_caller (P := Effect s o r m) .nothing fun p caller => ?_
      rw [Principal.runOn_generateApiToken]
      cases session : p.isApiToken with
      | true => exact .nothing
      | false =>
          simp only [Bool.false_eq_true, if_false]
          split
          · exact .nothing
          · rename_i future
            split
            · exact .nothing
            · rename_i granted chosen
              exact .made endpoint method caller session (by simpa using future) chosen

/-- Listing API tokens changes nothing. -/
theorem after_listApiTokens : m.after (listApiTokens s o r) = m := by
  unfold listApiTokens
  simp only [after_respond]
  refine memory_of_caller (P := fun m' => m' = m) rfl fun p _ => ?_
  obtain ⟨listed, h⟩ := p.listApiTokens_reads m
  rw [h]

/-- What a request to delete an API token does. -/
theorem effect_removeApiToken {escapedId : String}
    (endpoint : r.endpoint? = some (.apiToken escapedId)) :
    Effect s o r m (m.after (removeApiToken s o r escapedId)) := by
  unfold removeApiToken
  cases named : text? (Percent.decode (utf8 escapedId)) with
  | none => exact .nothing
  | some tokenId =>
      simp only [after_respond]
      refine memory_of_caller (P := Effect s o r m) .nothing fun p caller => ?_
      rw [Principal.runOn_removeApiToken]
      split
      · rename_i owns
        exact .deleted endpoint named caller owns
      · exact .nothing

/-- Deciding about a delegated request changes nothing. -/
theorem after_forwardAuth (e : Forward.Engine) : m.after (forwardAuth e o r) = m := by
  refine (Memory.after_bind fun ruling => ⟨_, rfl⟩).trans ?_
  unfold Forward.Engine.decide
  split
  · rfl
  · split
    · rfl
    · rw [Memory.after, Forward.Engine.run_decideUndenied]

/-- What an endpoint does that answers a request. -/
theorem effect_endpoint (i : Identification) (e : Forward.Engine) {endpoint : Endpoint}
    (answers : r.endpoint? = some endpoint) :
    Effect e.service o r m (m.after (endpoint.serve i e o r)) := by
  have plain (x : Action Http.Response) :
      m.after (do return Served.plain (← x)) = m.after x :=
    Memory.after_bind fun response => ⟨_, rfl⟩
  cases endpoint with
  | health =>
      rw [Endpoint.serve, plain, after_health]
      exact .nothing
  | login =>
      rw [Endpoint.serve, plain]
      exact effect_login answers
  | refresh =>
      rw [Endpoint.serve, plain, after_refresh]
      exact .nothing
  | logout =>
      rw [Endpoint.serve, plain]
      exact effect_logout answers
  | introspect =>
      rw [Endpoint.serve, plain, after_introspect]
      exact .nothing
  | apiTokens =>
      rw [Endpoint.serve]
      split
      · rename_i method
        rw [plain]
        exact effect_generateApiToken answers (by simpa using method)
      · rw [plain, after_listApiTokens]
        exact .nothing
  | apiToken escapedId =>
      rw [Endpoint.serve, plain]
      exact effect_removeApiToken answers
  | forwardAuth =>
      rw [Endpoint.serve, after_forwardAuth]
      exact .nothing

/-! ## The application -/

namespace App

/-- What becomes of the store when a request is brought to its endpoint. -/
theorem effect_route (a : App) : Effect a.engine.service o r m (m.after (a.route o r)) := by
  unfold route
  split
  · exact .nothing
  · rename_i endpoint found
    split
    · exact .nothing
    · rename_i method
      split
      · rename_i taken
        have answers : r.endpoint? = some endpoint := by
          rw [Request.endpoint?, found, Option.filter_some]
          simpa using And.intro (by simpa using taken) (by simpa using method)
        rw [Memory.after_bind]
        · exact effect_endpoint a.identification a.engine answers
        · intro served
          split
          · exact ⟨_, rfl⟩
          · exact ⟨_, rfl⟩
      · exact .nothing

/-- What a request to the application does to the store. -/
theorem effect_serve (a : App) (o : Occasion) (freshId : String) (r : Request) (m : Memory) :
    Effect a.engine.service o r m (m.after (a.serve o freshId r)) := by
  have routed : m.after (a.serve o freshId r) = m.after (a.route o (r.stamped freshId)) :=
    Memory.after_bind fun served => ⟨_, rfl⟩
  rw [routed]
  exact (effect_route a).of_stamped

end App

end Gatehouse.Api
