import Gatehouse.Proofs.Access.Run
import Gatehouse.Proofs.Token.Verification

/-!
# Runs of the service - What is handed out

What the tokens say that a login or a refresh hands out when it ends well, and what the login has
checked.  The store that the event finds may be any.  A login or refresh that fails hands out
nothing, since none of its cookies are set.

Main definitions:

- `Moment.text?`: the token of a scope that is handed out at a moment.
- `Moment.Says`: what a token says that is handed out at a moment.
- `Moment.LoggedIn`: a login that ended well, and what it has checked.
- `Moment.Issue`: how the tokens come about that are handed out.

Main results:

- Theorem `Moment.Says.issue`: how a token came about that was handed out.
- Theorem `Moment.Says.unique`: tokens of one moment have ids of their own.
-/

namespace Gatehouse.Access

open Http (Headers)
open Store (Role User)
open Token (Authentic Claims IsTime LoginKind Scope)

/-! ## Ids -/

namespace Event

/-- The id that a new token of a scope is given. -/
def idFor? : Event → Scope → Option String
  | login o .., .access | refresh o .., .access => some o.accessId
  | login o .., .refresh => some o.refreshId
  | login o .., .pending => some o.pendingId
  | _, _ => none

variable {e : Event} {scope scope' : Scope} {id : String}

theorem mem_freshIds_of_idFor? (h : e.idFor? scope = some id) : id ∈ e.freshIds := by
  cases e <;> cases scope <;> simp_all [idFor?, freshIds]

/-- New tokens of different scopes are given different ids. -/
theorem idFor?_inj (once : e.freshIds.Nodup) (h : e.idFor? scope = some id)
    (h' : e.idFor? scope' = some id) : scope = scope' := by
  cases e <;> cases scope <;> cases scope' <;> simp_all [idFor?, freshIds]

end Event

/-! ## Tokens -/

namespace Moment

/-- The refresh token that is handed out. -/
def refreshText? (s : Service) (x : Moment) : Option String :=
  match x.event with
  | .login o request current =>
    match ((s.login o request current).runOn .empty x.before).1 with
    | .ok (.established session) => session.refreshToken.map (·.token)
    | _ => none
  | .refresh .. | .logout .. | .cleanup _ | .administer .. => none

/-- The token of a scope that is handed out. -/
def text? (s : Service) (x : Moment) : Scope → Option String
  | .access => x.accessText? s
  | .refresh => x.refreshText? s
  | .pending => x.pendingText? s

/-- A token that is handed out says this. -/
def Says (s : Service) (x : Moment) (claims : Claims) : Prop :=
  ∃ scope text, x.text? s scope = some text ∧ Authentic s.config.key text claims

/-- A login that ended well in a session of a user, and what it has checked in the store that it
found. -/
inductive LoggedIn (s : Service) (x : Moment) (userId : String) : LoginKind → Prop where
  /-- The password fits, and no second factor is enrolled. -/
  | password {o : Occasion} {request : LoginRequest} {current : Option Principal}
      {session : Session} {name password : String} {record : User}
      (event : x.event = .login o request current)
      (ended : ((s.login o request current).runOn .empty x.before).1 = .ok (.established session))
      (credential : request.credential = .password name password)
      (checked : PasswordChecked s x.before name password record)
      (single : record.hasSecondFactor = false) (named : record.id = userId) :
      LoggedIn s x userId .password
  /-- The code of the second factor is right. -/
  | secondFactor {o : Occasion} {request : LoginRequest} {current : Option Principal}
      {session : Session} {pendingToken code : String} {record : User}
      (event : x.event = .login o request current)
      (ended : ((s.login o request current).runOn .empty x.before).1 = .ok (.established session))
      (credential : request.credential = .secondFactor pendingToken code)
      (checked : SecondFactorChecked s x.before
        ((s.login o request current).runOn .empty x.before).2.2 o.now pendingToken code record)
      (named : record.id = userId) : LoggedIn s x userId .mfa

/-- How a token came about that is handed out, and what it says. -/
inductive Issue (s : Service) (x : Moment) : Claims → Prop where
  /-- A token for the second step. -/
  | pending {o : Occasion} {request : LoginRequest} {current : Option Principal} {user : User}
      (event : x.event = .login o request current) :
      Issue s x (Token.pendingClaims s.config o.now o.pendingId user)
  /-- The refresh token of a session that begins. -/
  | refresh {o : Occasion} {request : LoginRequest} {current : Option Principal} {user : User}
      {roles : List Role} {kind : LoginKind} (event : x.event = .login o request current)
      (loggedIn : x.LoggedIn s user.id kind) :
      Issue s x (Token.refreshClaims s.config o.now o.refreshId user roles kind)
  /-- The access token of a session that begins, derived from the refresh token if there is one. -/
  | access {o : Occasion} {request : LoginRequest} {current : Option Principal} {user : User}
      {roles : List Role} {kind : LoginKind} {parent : Option String}
      (event : x.event = .login o request current) (loggedIn : x.LoggedIn s user.id kind)
      (derived : ∀ id, parent = some id → id = o.refreshId ∧ ∃ text, x.refreshText? s = some text ∧
        Token.sign s.config.algorithm s.config.key
          (Token.refreshClaims s.config o.now o.refreshId user roles kind) = .ok text) :
      Issue s x (Token.accessClaims s.config o.now o.accessId user roles request.requestedTtl
        parent kind)
  /-- An access token for which a refresh token was traded. -/
  | traded {o : Occasion} {headers : Headers} {requestedTtl : Nat} {redirect : Option String}
      {text : String} {claims : Claims} {user : User} {roles : List Role} {session : Session}
      (event : x.event = .refresh o headers requestedTtl redirect)
      (traded : s.Traded o headers requestedTtl x.before text claims user roles session) :
      Issue s x (Token.accessClaims s.config o.now o.accessId user roles requestedTtl
        (some claims.id) session.kind)

variable {s : Service} {x : Moment} {claims claims' : Claims} {scope : Scope} {text : String}

theorem Issue.origin (h : x.Issue s claims) : x.Origin s claims := by
  cases h with
  | pending event => exact .pending event
  | refresh event loggedIn => exact .refreshToken event
  | @access o request current user roles kind parent event loggedIn derived =>
      refine .login event ?_
      cases parent with
      | none => exact .inl rfl
      | some id => exact .inr (congrArg some (derived id rfl).1)
  | traded event traded => exact .refresh event traded.given traded.verified traded.scope

/-- A token is for the scope that its id is meant for. -/
theorem Issue.idFor?_eq (h : x.Issue s claims) (good : claims.hasScope scope = true) :
    x.event.idFor? scope = some claims.id := by
  cases h with
  | pending event | refresh event _ | access event _ _ | traded event _ =>
      rw [event]
      cases scope <;> first | rfl | cases good

/-- A login that ends well in a session hands out its refresh token, if there is one. -/
theorem refreshText?_of_login {o : Occasion} {request : LoginRequest} {current : Option Principal}
    {session : Session} (event : x.event = .login o request current)
    (ended : ((s.login o request current).runOn .empty x.before).1 = .ok (.established session)) :
    x.refreshText? s = session.refreshToken.map (·.token) := by
  simp only [refreshText?, event, ended]

/-- A refresh that ends well hands out its access token. -/
theorem accessText?_of_refresh {o : Occasion} {headers : Headers} {requestedTtl : Nat}
    {redirect : Option String} {session : Session}
    (event : x.event = .refresh o headers requestedTtl redirect)
    (ended : ((s.refresh o headers requestedTtl redirect).runOn .empty x.before).1 =
      .ok session) : x.accessText? s = some session.accessToken.token := by
  simp only [accessText?, event, ended]

/-- The tokens of a session that begins. -/
theorem issue_of_begun {o : Occasion} {request : LoginRequest} {current : Option Principal}
    {session : Session} {user : User} {roles : List Role} {kind : LoginKind}
    {parent : Option String} (event : x.event = .login o request current)
    (ended : ((s.login o request current).runOn .empty x.before).1 = .ok (.established session))
    (loggedIn : x.LoggedIn s user.id kind)
    (begun : Service.Begun s o request user roles kind session.refreshToken parent) :
    x.Issue s (Token.accessClaims s.config o.now o.accessId user roles request.requestedTtl parent
        kind) ∧
      ∀ text, x.refreshText? s = some text → x.Issue s
          (Token.refreshClaims s.config o.now o.refreshId user roles kind) ∧
        Token.sign s.config.algorithm s.config.key
          (Token.refreshClaims s.config o.now o.refreshId user roles kind) = .ok text := by
  have handed := refreshText?_of_login event ended
  generalize session.refreshToken = refreshToken at handed begun
  cases begun with
  | alone unwanted =>
      refine ⟨.access event loggedIn nofun, fun text h => ?_⟩
      rw [handed] at h
      cases h
  | withRefresh issued wanted signed =>
      refine ⟨.access event loggedIn fun id same => ?_, fun text h => ?_⟩
      · exact ⟨(Option.some.inj same).symm, issued.token, handed, signed⟩
      · rw [handed] at h
        obtain rfl := Option.some.inj h
        exact ⟨.refresh event loggedIn, signed⟩

/-- What a login that ends well in a session has checked and issued. -/
theorem exists_loggedIn {o : Occasion} {request : LoginRequest} {current : Option Principal}
    {session : Session} (event : x.event = .login o request current)
    (ended : ((s.login o request current).runOn .empty x.before).1 = .ok (.established session)) :
    ∃ user roles kind parent, x.LoggedIn s user.id kind ∧
      Service.Begun s o request user roles kind session.refreshToken parent ∧
      Token.sign s.config.algorithm s.config.key (Token.accessClaims s.config o.now o.accessId user
        roles request.requestedTtl parent kind) = .ok session.accessToken.token := by
  cases Service.login_ok (Prod.ext ended rfl) with
  | @password name password record session roles parent credential checked single owner begun
      signed =>
      exact ⟨x.before.withEmail record, roles, _, parent,
        .password event ended credential checked single rfl, begun, signed⟩
  | @secondFactor token code record session roles parent credential checked owner begun signed =>
      exact ⟨x.before.withEmail record, roles, _, parent,
        .secondFactor event ended credential checked rfl, begun, signed⟩

/-- A token that is handed out was signed, and came about in one of these ways. -/
theorem exists_issue (h : x.text? s scope = some text) :
    ∃ claims, x.Issue s claims ∧ claims.hasScope scope = true ∧
      Token.sign s.config.algorithm s.config.key claims = .ok text := by
  cases scope with
  | access =>
      simp only [text?, accessText?] at h
      split at h
      · rename_i o request current event
        split at h
        · rename_i session ended
          obtain rfl := Option.some.inj h
          obtain ⟨user, roles, kind, parent, loggedIn, begun, signed⟩ := exists_loggedIn event ended
          exact ⟨_, (issue_of_begun event ended loggedIn begun).1, rfl, signed⟩
        · cases h
      · rename_i o headers requestedTtl redirect event
        split at h
        · rename_i session ended
          obtain rfl := Option.some.inj h
          obtain ⟨given, claims, user, roles, traded⟩ :=
            Service.refresh_traded (Prod.ext ended rfl)
          exact ⟨_, .traded event traded, rfl, traded.signed⟩
        · cases h
      all_goals cases h
  | refresh =>
      have handed := h
      simp only [text?, refreshText?] at h
      split at h
      · rename_i o request current event
        split at h
        · rename_i session ended
          obtain ⟨user, roles, kind, parent, loggedIn, begun, -⟩ := exists_loggedIn event ended
          obtain ⟨issue, signed⟩ := (issue_of_begun event ended loggedIn begun).2 text handed
          exact ⟨_, issue, rfl, signed⟩
        · cases h
      all_goals cases h
  | pending =>
      simp only [text?, pendingText?] at h
      split at h
      · rename_i o request current event
        split at h
        · rename_i token ended
          obtain rfl := Option.some.inj h
          cases Service.login_ok (Prod.ext ended rfl) with
          | pending credential checked enrolled signed =>
              exact ⟨_, .pending event, rfl, signed⟩
        · cases h
      all_goals cases h

/-- What a token says is what it was signed for. -/
theorem issue_of_authentic (time : IsTime x.event.time) (h : x.text? s scope = some text)
    (authentic : Authentic s.config.key text claims) :
    x.Issue s claims ∧ claims.hasScope scope = true := by
  obtain ⟨signedClaims, issue, good, signed⟩ := exists_issue h
  obtain rfl := (Token.authentic_of_sign signed (issue.origin.isTimely time)).unique authentic
  exact ⟨issue, good⟩

/-- How a token came about that was handed out. -/
theorem Says.issue (time : IsTime x.event.time) (h : x.Says s claims) : x.Issue s claims := by
  obtain ⟨scope, text, handed, authentic⟩ := h
  exact (issue_of_authentic time handed authentic).1

/-- A new token has an id that was meant for the moment. -/
theorem Says.mem_freshIds (time : IsTime x.event.time) (h : x.Says s claims) :
    claims.id ∈ x.event.freshIds := by
  obtain ⟨scope, text, handed, authentic⟩ := h
  obtain ⟨issue, good⟩ := issue_of_authentic time handed authentic
  exact Event.mem_freshIds_of_idFor? (issue.idFor?_eq good)

/-- Tokens of one moment have ids of their own. -/
theorem Says.unique (time : IsTime x.event.time) (once : x.event.freshIds.Nodup)
    (h : x.Says s claims) (h' : x.Says s claims') (same : claims.id = claims'.id) :
    claims = claims' := by
  obtain ⟨scope, text, handed, authentic⟩ := h
  obtain ⟨scope', text', handed', authentic'⟩ := h'
  obtain ⟨issue, good⟩ := issue_of_authentic time handed authentic
  obtain ⟨issue', good'⟩ := issue_of_authentic time handed' authentic'
  have meant' := issue'.idFor?_eq good'
  rw [← same] at meant'
  obtain rfl := Event.idFor?_inj once (issue.idFor?_eq good) meant'
  obtain rfl := Option.some.inj (handed.symm.trans handed')
  exact authentic.unique authentic'

end Moment

end Gatehouse.Access
