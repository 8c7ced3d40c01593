import Gatehouse.Proofs.Api.Attenuation
import Gatehouse.Proofs.Forward.Failures
import Gatehouse.Store.Outage

/-!
# The application - When the store fails

A request for which the store fails ends with the status of an internal error, at every endpoint but
the one that tells whether the store answers.

Main results:

- Theorem `currentSession_failsClosed`: a session that cannot be looked up does not pass for none.
- Theorem `App.serve_failsTo`: what the application answers when the store fails.
- Theorem `fails_closed`: the flows, the decisions and the application together.
-/

namespace Gatehouse.Api

open Access (CookieFlow Flow Occasion Principal Service)
open Http (Headers Response)
open Store (Action Memory)

variable {s : Service} {o : Occasion} {r : Request} {freshId : String}

/-! ## Responses -/

/-- The status of a response says that the service failed. -/
def InternalError (response : Response) : Prop := response.status = 500

theorem respond_failsTo {α : Type} {x : Flow α} (h : x.FailsClosed) (answer : α → Response) :
    (respond x answer).FailsTo InternalError := by
  refine Action.FailsTo.bind h.ends ?_ ?_
  · rintro outcome ⟨detail, rfl⟩
    exact ⟨errorResponse (.internal detail), rfl, rfl⟩
  · intro outcome
    cases outcome <;> exact Action.failsTo_done _

theorem respondWithCookies_failsTo {α : Type} {x : CookieFlow α} (h : x.FailsClosed)
    (answer : α → Headers → Response) : (respondWithCookies x answer).FailsTo InternalError := by
  refine Action.FailsTo.bind (h.ends .empty) ?_ ?_
  · rintro ⟨outcome, cookies⟩ ⟨detail, ended⟩
    obtain rfl : outcome = .error (.internal detail) := ended
    exact ⟨errorResponse (.internal detail), rfl, rfl⟩
  · rintro ⟨outcome, cookies⟩
    cases outcome <;> exact Action.failsTo_done _

/-- A flow that begins with finding out who the caller is. -/
theorem callerFlow_failsClosed {α : Type} {f : Principal → Flow α}
    (h : ∀ p, (f p).FailsClosed) :
    Flow.FailsClosed (s.authenticateHeaders o.now r.headers >>= f) :=
  (Service.authenticateHeaders_failsClosed _ _).bind h

/-! ## Endpoints -/

/-- A session that cannot be looked up does not pass for none. -/
theorem currentSession_failsClosed : (currentSession s o r).FailsClosed where
  ends := by
    refine Action.FailsTo.bind (Service.authenticateHeaders_failsClosed o.now r.headers).ends ?_ ?_
    · rintro outcome ⟨detail, rfl⟩
      exact ⟨.error (.internal detail), rfl, detail, rfl⟩
    · intro outcome
      cases outcome with
      | ok p => exact Action.failsTo_done _
      | error refusal => cases refusal <;> exact Action.failsTo_done _

theorem login_failsTo : (login s o r).FailsTo InternalError := by
  unfold login
  cases readForm loginForm r with
  | error refused => exact Action.failsTo_done _
  | ok form =>
      refine respondWithCookies_failsTo ?_ loginResponse
      cases form with
      | none => exact CookieFlow.failsClosed_throw _
      | some form =>
          have parsed : CookieFlow.FailsClosed (ExceptT.mk (pure (loginRequest form))) :=
            ⟨fun _ => Action.failsTo_done _⟩
          exact parsed.bind fun request =>
            (CookieFlow.failsClosed_withCookies currentSession_failsClosed).bind fun current =>
              Service.login_failsClosed request current

theorem refresh_failsTo : (refresh s o r).FailsTo InternalError := by
  unfold refresh
  cases readForm refreshForm r with
  | error refused => exact Action.failsTo_done _
  | ok form => exact respondWithCookies_failsTo (Service.refresh_failsClosed _ _ _) _

theorem logout_failsTo : (logout s o r).FailsTo InternalError := by
  refine respondWithCookies_failsTo ?_ _
  exact (CookieFlow.failsClosed_withCookies
    (Service.authenticateHeaders_failsClosed _ _)).bind Service.logout_failsClosed

theorem introspect_failsTo : (introspect s o r).FailsTo InternalError :=
  respond_failsTo (callerFlow_failsClosed Principal.profile_failsClosed) _

theorem generateApiToken_failsTo : (generateApiToken s o r).FailsTo InternalError := by
  unfold generateApiToken
  cases readForm apiTokenForm r with
  | error refused => exact Action.failsTo_done _
  | ok form =>
      exact respond_failsTo (callerFlow_failsClosed fun p =>
        Principal.generateApiToken_failsClosed p _ _ _) _

theorem listApiTokens_failsTo : (listApiTokens s o r).FailsTo InternalError :=
  respond_failsTo (callerFlow_failsClosed Principal.listApiTokens_failsClosed) _

theorem removeApiToken_failsTo (escapedId : String) :
    (removeApiToken s o r escapedId).FailsTo InternalError := by
  unfold removeApiToken
  split
  · exact Action.failsTo_done _
  · exact respond_failsTo (callerFlow_failsClosed fun p =>
      Principal.removeApiToken_failsClosed p _) _

theorem forwardAuth_failsTo (e : Forward.Engine) :
    (forwardAuth e o r).FailsTo fun served => InternalError served.response := by
  refine Action.FailsTo.bind (Forward.Engine.decide_failsTo e) ?_ fun _ => Action.failsTo_done _
  rintro ruling failed
  exact ⟨⟨ruling.decision.response, ruling.consulted⟩, rfl, by rw [failed]; rfl⟩

/-- What an endpoint answers when the store fails, unless it is there to tell that. -/
theorem endpoint_failsTo (i : Identification) (e : Forward.Engine) {endpoint : Endpoint}
    (asked : endpoint ≠ .health) :
    (endpoint.serve i e o r).FailsTo fun served => InternalError served.response := by
  have plain {x : Action Response} (h : x.FailsTo InternalError) :
      Action.FailsTo (fun served : Served => InternalError served.response)
        (do return Served.plain (← x)) :=
    h.bind (fun response failed => ⟨.plain response, rfl, failed⟩) fun _ => Action.failsTo_done _
  cases endpoint with
  | health => exact absurd rfl asked
  | login => exact plain login_failsTo
  | refresh => exact plain refresh_failsTo
  | logout => exact plain logout_failsTo
  | introspect => exact plain introspect_failsTo
  | apiTokens =>
      rw [Endpoint.serve]
      split
      · exact plain generateApiToken_failsTo
      · exact plain listApiTokens_failsTo
  | apiToken escapedId => exact plain (removeApiToken_failsTo escapedId)
  | forwardAuth => exact forwardAuth_failsTo e

/-! ## The application -/

namespace App

theorem route_failsTo (a : App) (asked : r.endpoint? ≠ some .health) :
    (a.route o r).FailsTo fun served => InternalError served.response := by
  unfold route
  split
  · exact Action.failsTo_done _
  · rename_i endpoint found
    split
    · exact Action.failsTo_done _
    · rename_i method
      split
      · rename_i taken
        have answers : r.endpoint? = some endpoint := by
          rw [Request.endpoint?, found, Option.filter_some]
          simpa using And.intro (by simpa using taken) (by simpa using method)
        have served := endpoint_failsTo (o := o) (r := r) a.identification a.engine
          (fun health => asked (health ▸ answers))
        refine served.bind (fun served failed => ?_) fun served => ?_
        · split
          · exact ⟨{ served with response.body := "" }, rfl, failed⟩
          · exact ⟨served, rfl, failed⟩
        · split <;> exact Action.failsTo_done _
      · exact Action.failsTo_done _

/-- What the application answers when the store fails. -/
theorem serve_failsTo (a : App) (asked : r.endpoint? ≠ some .health) :
    (a.serve o freshId r).FailsTo fun served => InternalError served.response := by
  have routed := route_failsTo (o := o) (r := r.stamped freshId) a asked
  refine routed.bind (fun served failed => ⟨_, rfl, ?_⟩) fun _ => Action.failsTo_done _
  simp only
  split
  · exact failed
  · exact failed

end App

/-! ## The service -/

/-- Whatever the store is and whatever it replies: once it fails, nobody is accepted, logged in, sent
on or told anything but that.  A delegated request is then neither let through nor sent elsewhere nor
denied. -/
theorem fails_closed (a : App) (s : Service) (o : Occasion) (freshId : String) :
    (∀ credential, (s.authenticate o.now credential).FailsClosed) ∧
    (∀ headers, (s.authenticateHeaders o.now headers).FailsClosed) ∧
    (∀ request current, (s.login o request current).FailsClosed) ∧
    (∀ headers ttl redirect, (s.refresh o headers ttl redirect).FailsClosed) ∧
    (∀ p, (s.logout p).FailsClosed) ∧
    (∀ p : Principal, p.profile.FailsClosed ∧ p.roles.FailsClosed ∧ p.listApiTokens.FailsClosed ∧
      (∀ wanted expiresAt description,
        (p.generateApiToken o wanted expiresAt description).FailsClosed) ∧
      ∀ tokenId, (p.removeApiToken tokenId).FailsClosed) ∧
    (∀ r, (currentSession s o r).FailsClosed) ∧
    (∀ r, (a.engine.decide o.now r).FailsTo fun ruling => ruling.decision = .error) ∧
    ∀ r : Request, r.endpoint? ≠ some .health →
      (a.serve o freshId r).FailsTo fun served => InternalError served.response := by
  refine ⟨Service.authenticate_failsClosed o.now, Service.authenticateHeaders_failsClosed o.now,
    Service.login_failsClosed, Service.refresh_failsClosed, Service.logout_failsClosed,
    fun p => ?_, fun r => currentSession_failsClosed, fun r => a.engine.decide_failsTo,
    fun r => a.serve_failsTo⟩
  exact ⟨p.profile_failsClosed, p.roles_failsClosed, p.listApiTokens_failsClosed,
    p.generateApiToken_failsClosed, p.removeApiToken_failsClosed⟩

/-- A store whose users and API tokens cannot be looked up. -/
def directoryDown : Store.Outages :=
  (Table.empty.put "get_user_by_id" (.other "no connection")).put "get_api_token_by_hash"
    (.other "no connection")

/-- The robot that a rule lets in is not let in, and an API token is not turned away as a bad one. -/
theorem houseApp_fails_closed :
    ((houseApp.engine.decide 1000 (Forward.Engine.robotRequest (.v4 0x0B000001))).run
      (Memory.answerDuring directoryDown) .empty).1.decision = .error ∧
    ∃ detail, (((houseApp.engine.service.authenticate 1000 (.api "pct_0")).run).run
      (Memory.answerDuring directoryDown) .empty).1 = .error (.internal detail) := by
  have closed := fails_closed houseApp houseApp.engine.service Access.aliceErrand "1"
  obtain ⟨authenticates, -, -, -, -, -, -, decides, -⟩ := closed
  constructor
  · refine decides _ _ _ _ ⟨⟨.userById "robot", .error (.other "no connection")⟩, ?_, ?_⟩
    · exact .head _
    · exact ⟨_, rfl, rfl⟩
  · refine (authenticates (.api "pct_0")).ends _ _ _ ⟨_, .head _, .other "no connection", ?_, rfl⟩
    rfl

end Gatehouse.Api
