import Gatehouse.Access.ApiTokens
import Gatehouse.Access.Session
import Gatehouse.Proofs.Access.Interference
import Gatehouse.Proofs.Store.Failures

/-!
# Request flows - When the store fails

A flow that goes on after a failure of the store goes on from something that it does not know, and
may let somebody in who has to stay outside.  Some flows take a record that is missing for an answer;
a failure of the store must not pass for that.  Here every flow of the service is shown to end in an
internal error when the store fails, whatever the store is and whatever else it replies.

Main definitions: `Flow.FailsClosed` and `CookieFlow.FailsClosed`.

Main results:

- Theorem `Flow.failsClosed_fetch` and theorem `Flow.failsClosed_lookup?`: asking for something
  that has to be there, or that may be missing.
- Theorem `Flow.FailsClosed.bind` and theorem `CookieFlow.FailsClosed.bind`: one flow after the
  other.
- Theorem `Service.authenticate_failsClosed`, theorem `Service.login_failsClosed`, theorem
  `Service.refresh_failsClosed` and theorem `Service.logout_failsClosed`: the flows of sessions.
-/

namespace Gatehouse.Access

open Http (Headers)
open Store (Action Asking Role User)
open Token (Claims IssuedToken LoginKind Time)

variable {α β : Type} {s : Service} {o : Occasion}

/-! ## Flows -/

namespace Flow

/-- Whatever the store is, the flow ends in an internal error when the store fails. -/
structure FailsClosed (x : Flow α) : Prop where
  ends : x.run.FailsTo fun r => ∃ detail, r = .error (.internal detail)

theorem failsClosed_pure (a : α) : Flow.FailsClosed (pure a : Flow α) := ⟨Action.failsTo_done _⟩

theorem failsClosed_throw (e : Error) : Flow.FailsClosed (throw e : Flow α) :=
  ⟨Action.failsTo_done _⟩

theorem FailsClosed.bind {x : Flow α} {f : α → Flow β} (hx : x.FailsClosed)
    (hf : ∀ a, (f a).FailsClosed) : Flow.FailsClosed (x >>= f) where
  ends := by
    refine Action.FailsTo.bind hx.ends ?_ ?_
    · rintro r ⟨detail, rfl⟩
      exact ⟨.error (.internal detail), rfl, detail, rfl⟩
    · intro r
      cases r with
      | ok a => exact (hf a).ends
      | error e => exact Action.failsTo_done _

/-- A check in front of the rest asks nothing. -/
theorem FailsClosed.guard {p : Prop} [Decidable p] {e : Error} {rest : Unit → Flow α}
    (h : (rest ()).FailsClosed) :
    Flow.FailsClosed (if p then throw e >>= rest else rest ()) := by
  split
  · exact failsClosed_throw e
  · exact h

/-- Where something has to be there, a failure of the store is an internal error. -/
theorem failsClosed_fetch {x : Asking α} (h : x.Reports) : (fetch x).FailsClosed where
  ends := by
    refine Action.FailsTo.bind h.ends ?_ ?_
    · rintro r ⟨f, rfl, grave⟩
      exact ⟨.error (.ofStore f), rfl, f.message, by simp [Error.ofStore, grave]⟩
    · intro r
      cases r <;> exact Action.failsTo_done _

/-- Where something may be missing, a failure of the store is an internal error all the same. -/
theorem failsClosed_lookup? {x : Asking α} (h : x.Reports) : (lookup? x).FailsClosed where
  ends := by
    refine Action.FailsTo.bind h.ends ?_ ?_
    · rintro r ⟨f, rfl, grave⟩
      exact ⟨.error (.internal f.message), by simp only [grave]; rfl, f.message, rfl⟩
    · intro r
      cases r <;> exact Action.failsTo_done _

/-- A flow for every item of a list stops at the first item for which the store fails. -/
theorem failsClosed_mapM {f : α → Flow β} (h : ∀ a, (f a).FailsClosed) (l : List α) :
    Flow.FailsClosed (l.mapM f) := by
  have loop : ∀ done : List β, Flow.FailsClosed (List.mapM.loop f l done) := by
    induction l with
    | nil => exact fun done => failsClosed_pure _
    | cons a l ih => exact fun done => (h a).bind fun b => ih _
  exact loop []

theorem activeUser?_failsClosed (userId : String) : (activeUser? userId).FailsClosed :=
  (failsClosed_lookup? (Asking.reports_send _)).bind fun _ => failsClosed_pure _

theorem activeUser_failsClosed (userId : String) : (activeUser userId).FailsClosed := by
  refine (activeUser?_failsClosed userId).bind fun found => ?_
  cases found with
  | none => exact failsClosed_throw _
  | some user => exact failsClosed_pure _

end Flow

/-! ## Cookie flows -/

namespace CookieFlow

/-- Whatever the store is, the flow ends in an internal error when the store fails. -/
structure FailsClosed (x : CookieFlow α) : Prop where
  ends : ∀ headers, (x.run.run headers).FailsTo fun r => ∃ detail, r.1 = .error (.internal detail)

theorem failsClosed_pure (a : α) : CookieFlow.FailsClosed (pure a : CookieFlow α) :=
  ⟨fun _ => Action.failsTo_done _⟩

theorem failsClosed_throw (e : Error) : CookieFlow.FailsClosed (throw e : CookieFlow α) :=
  ⟨fun _ => Action.failsTo_done _⟩

theorem FailsClosed.bind {x : CookieFlow α} {f : α → CookieFlow β} (hx : x.FailsClosed)
    (hf : ∀ a, (f a).FailsClosed) : CookieFlow.FailsClosed (x >>= f) where
  ends headers := by
    refine Action.FailsTo.bind (hx.ends headers) ?_ ?_
    · rintro ⟨r, headers'⟩ ⟨detail, ended⟩
      obtain rfl : r = .error (.internal detail) := ended
      exact ⟨(.error (.internal detail), headers'), rfl, detail, rfl⟩
    · rintro ⟨r, headers'⟩
      cases r with
      | ok a => exact (hf a).ends headers'
      | error e => exact Action.failsTo_done _

theorem FailsClosed.guard {p : Prop} [Decidable p] {e : Error} {rest : Unit → CookieFlow α}
    (h : (rest ()).FailsClosed) :
    CookieFlow.FailsClosed (if p then throw e >>= rest else rest ()) := by
  split
  · exact failsClosed_throw e
  · exact h

theorem failsClosed_withCookies {x : Flow α} (h : x.FailsClosed) :
    CookieFlow.FailsClosed (Flow.withCookies x) where
  ends headers := by
    refine Action.FailsTo.bind h.ends ?_ fun r => Action.failsTo_done _
    rintro r ⟨detail, rfl⟩
    exact ⟨(.error (.internal detail), headers), rfl, detail, rfl⟩

/-- Issuing asks nothing. -/
theorem failsClosed_issuing (x : Token.Issuing α) : (issuing x).FailsClosed where
  ends headers := by
    rw [run_issuing]
    exact Action.failsTo_done _

end CookieFlow

/-! ## The ledger -/

namespace Ledger

theorem isRejected_reports (claims : Claims) : (isRejected claims).Reports := by
  refine Asking.Reports.bind (Asking.reports_send _) fun rejected => ?_
  cases rejected with
  | true => exact Asking.reports_pure _
  | false =>
      cases claims.parent? with
      | none => exact Asking.reports_pure _
      | some parent => exact Asking.reports_send _

theorem endSession_reports (c : Config) (claims : Claims) : (endSession c claims).Reports := by
  refine Asking.Reports.bind (Asking.reports_send _) fun _ => ?_
  cases claims.parent? with
  | none => exact Asking.reports_pure _
  | some parent => exact Asking.reports_send _

end Ledger

/-! ## Sessions -/

namespace Service

theorem authenticateSigned_failsClosed (now : Time) (token : String) :
    (s.authenticateSigned now token).FailsClosed := by
  unfold authenticateSigned
  cases Token.verify s.config.key now token with
  | error e => exact Flow.failsClosed_throw _
  | ok claims =>
      refine Flow.FailsClosed.guard ?_
      refine (Flow.failsClosed_fetch (Ledger.isRejected_reports claims)).bind fun rejected => ?_
      exact Flow.FailsClosed.guard (Flow.failsClosed_pure _)

theorem authenticateApi_failsClosed (now : Time) (token : String) :
    (s.authenticateApi now token).FailsClosed := by
  refine (Flow.failsClosed_lookup? (Asking.reports_send _)).bind fun found => ?_
  cases found with
  | none => exact Flow.failsClosed_throw _
  | some stored =>
      refine Flow.FailsClosed.guard ?_
      refine (Flow.activeUser_failsClosed _).bind fun user => ?_
      refine (Flow.failsClosed_fetch (Asking.reports_send _)).bind fun roles => ?_
      exact Flow.failsClosed_pure _

/-- Nobody is accepted when the store fails. -/
theorem authenticate_failsClosed (now : Time) (credential : PresentedToken) :
    (s.authenticate now credential).FailsClosed := by
  cases credential with
  | signed token => exact authenticateSigned_failsClosed now token
  | api token => exact authenticateApi_failsClosed now token

theorem authenticateHeaders_failsClosed (now : Time) (headers : Headers) :
    (s.authenticateHeaders now headers).FailsClosed := by
  unfold authenticateHeaders
  cases PresentedToken.ofHeaders? headers s.config.accessCookie with
  | none => exact Flow.failsClosed_throw _
  | some credential => exact authenticate_failsClosed now credential

/-- A name that cannot be looked up does not pass for one that nobody has. -/
theorem loginUser?_failsClosed (name : String) : (s.loginUser? name).FailsClosed := by
  unfold loginUser?
  simp only
  split
  · exact Flow.failsClosed_pure _
  · refine Flow.FailsClosed.bind (Flow.failsClosed_lookup? (Asking.reports_send _)) fun found => ?_
    cases found with
    | some user => exact Flow.failsClosed_pure _
    | none =>
        simp only
        split
        · exact Flow.failsClosed_pure _
        · refine Flow.FailsClosed.bind (Flow.failsClosed_lookup? (Asking.reports_send _))
            fun found => ?_
          cases found <;> exact Flow.failsClosed_pure _

theorem passwordUser_failsClosed (name password : String) :
    (s.passwordUser name password).FailsClosed := by
  refine (loginUser?_failsClosed name).bind fun found => ?_
  cases found with
  | none => exact Flow.failsClosed_throw _
  | some user =>
      simp only
      split
      · exact Flow.failsClosed_pure _
      · exact Flow.failsClosed_throw _

theorem takeRecoveryCode_failsClosed (userId code : String) :
    (takeRecoveryCode userId code).FailsClosed := by
  unfold takeRecoveryCode
  split
  · exact Flow.failsClosed_fetch (Asking.reports_send _)
  · exact Flow.failsClosed_pure _

theorem secondFactorUser_failsClosed (now : Time) (pendingToken code : String) :
    (s.secondFactorUser now pendingToken code).FailsClosed := by
  unfold secondFactorUser
  split
  · exact Flow.failsClosed_throw _
  · refine Flow.FailsClosed.guard ((Flow.activeUser_failsClosed _).bind fun user => ?_)
    split
    · exact Flow.failsClosed_throw _
    · split
      · exact Flow.failsClosed_pure _
      · refine (takeRecoveryCode_failsClosed user.id code).bind fun taken => ?_
        split
        · exact Flow.failsClosed_pure _
        · exact Flow.failsClosed_throw _

theorem establish_failsClosed (request : LoginRequest) (user : User) (kind : LoginKind) :
    (s.establish o request user kind).FailsClosed := by
  have continued (roles : List Role) (refreshToken : Option IssuedToken) :=
    (CookieFlow.failsClosed_issuing (Token.issueAccess s.config o.now o.accessId user roles
      request.requestedTtl (refreshToken.map (·.id)) kind true)).bind fun accessToken =>
        CookieFlow.failsClosed_pure (Session.mk user.id kind accessToken refreshToken
          (s.redirectTarget request.redirect))
  unfold establish
  refine CookieFlow.FailsClosed.bind (CookieFlow.failsClosed_withCookies
    (Flow.failsClosed_fetch (Asking.reports_send _))) fun roles => ?_
  simp only
  split
  · exact (CookieFlow.failsClosed_issuing _).bind fun issued => continued roles (some issued)
  · exact continued roles none

/-- The session of a token ends only if the store takes both rows. -/
theorem endSession_failsClosed (claims : Claims) : CookieFlow.FailsClosed
    (Flow.withCookies (Flow.fetch (Ledger.endSession s.config claims))) :=
  CookieFlow.failsClosed_withCookies (Flow.failsClosed_fetch (Ledger.endSession_reports _ _))

theorem endCurrent_failsClosed (current : Option Principal) :
    (s.endCurrent current).FailsClosed := by
  unfold endCurrent
  cases current.filter (·.source == .session) with
  | none => exact CookieFlow.failsClosed_pure ()
  | some p =>
      exact (endSession_failsClosed p.claims).bind fun _ => CookieFlow.failsClosed_issuing _

/-- Nobody is logged in or asked for a second step when the store fails. -/
theorem login_failsClosed (request : LoginRequest) (current : Option Principal) :
    (s.login o request current).FailsClosed := by
  unfold login
  refine CookieFlow.FailsClosed.bind (endCurrent_failsClosed current) fun _ => ?_
  cases request.credential with
  | password name password =>
      refine CookieFlow.FailsClosed.bind
        (CookieFlow.failsClosed_withCookies (passwordUser_failsClosed name password)) fun user => ?_
      split
      · exact (CookieFlow.failsClosed_issuing _).bind fun _ => CookieFlow.failsClosed_pure _
      · exact (establish_failsClosed request user .password).bind fun _ =>
          CookieFlow.failsClosed_pure _
  | secondFactor token code =>
      refine CookieFlow.FailsClosed.bind
        (CookieFlow.failsClosed_withCookies (secondFactorUser_failsClosed o.now token code))
        fun user => ?_
      exact (establish_failsClosed request user .mfa).bind fun _ => CookieFlow.failsClosed_pure _

/-- No token is traded when the store fails. -/
theorem refresh_failsClosed (headers : Headers) (requestedTtl : Nat) (redirect : Option String) :
    (s.refresh o headers requestedTtl redirect).FailsClosed := by
  unfold refresh refreshSigned
  split
  · exact CookieFlow.failsClosed_throw _
  · split
    · exact CookieFlow.failsClosed_throw _
    · refine CookieFlow.FailsClosed.guard (CookieFlow.FailsClosed.bind
        (CookieFlow.failsClosed_withCookies
          (Flow.failsClosed_fetch (Ledger.isRejected_reports _))) fun rejected => ?_)
      refine CookieFlow.FailsClosed.guard (CookieFlow.FailsClosed.bind
        (CookieFlow.failsClosed_withCookies (Flow.activeUser_failsClosed _)) fun user => ?_)
      refine CookieFlow.FailsClosed.bind (CookieFlow.failsClosed_withCookies
        (Flow.failsClosed_fetch (Asking.reports_send _))) fun roles => ?_
      exact (CookieFlow.failsClosed_issuing _).bind fun issued => CookieFlow.failsClosed_pure _

/-- Nobody is told to be logged out when the store fails. -/
theorem logout_failsClosed (p : Principal) : (s.logout p).FailsClosed := by
  unfold logout
  refine CookieFlow.FailsClosed.guard ?_
  exact (endSession_failsClosed p.claims).bind fun _ => CookieFlow.failsClosed_issuing _

end Service

/-! ## Principals -/

namespace Principal

theorem roles_failsClosed (p : Principal) : p.roles.FailsClosed := by
  unfold roles
  cases p.source with
  | session => exact Flow.failsClosed_fetch (Asking.reports_send _)
  | apiToken id roles => exact Flow.failsClosed_pure _

theorem profile_failsClosed (p : Principal) : p.profile.FailsClosed :=
  (Flow.activeUser_failsClosed _).bind fun _ =>
    (Flow.failsClosed_lookup? (Asking.reports_send _)).bind fun _ =>
      (Flow.failsClosed_fetch (Asking.reports_send _)).bind fun _ => Flow.failsClosed_pure _

theorem generateApiToken_failsClosed (p : Principal) (wanted : Option (List String))
    (expiresAt : Option Time) (description : String) :
    (p.generateApiToken o wanted expiresAt description).FailsClosed := by
  have chosen (available : List Role) :
      Flow.FailsClosed (ExceptT.mk (pure (grantedRoles available wanted))) :=
    ⟨Action.failsTo_done _⟩
  unfold generateApiToken
  refine Flow.FailsClosed.guard ?_
  refine Flow.FailsClosed.guard ?_
  refine Flow.FailsClosed.bind (Flow.failsClosed_fetch (Asking.reports_send _)) fun available => ?_
  refine Flow.FailsClosed.bind (chosen available) fun granted => ?_
  exact (Flow.failsClosed_fetch (Asking.reports_send _)).bind fun _ => Flow.failsClosed_pure _

theorem listApiTokens_failsClosed (p : Principal) : p.listApiTokens.FailsClosed := by
  refine (Flow.failsClosed_fetch (Asking.reports_send _)).bind fun tokens => ?_
  refine Flow.failsClosed_mapM (fun token => ?_) tokens
  exact (Flow.failsClosed_fetch (Asking.reports_send _)).bind fun _ => Flow.failsClosed_pure _

theorem removeApiToken_failsClosed (p : Principal) (tokenId : String) :
    (p.removeApiToken tokenId).FailsClosed := by
  refine (Flow.failsClosed_fetch (Asking.reports_send _)).bind fun removed => ?_
  split
  · exact Flow.failsClosed_throw _
  · exact Flow.failsClosed_pure _

end Principal

end Gatehouse.Access
