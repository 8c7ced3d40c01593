import Gatehouse.Proofs.Access.Interference
import Gatehouse.Proofs.Access.Revocation
import Gatehouse.Proofs.Redirect

/-!
# Redirect targets of sessions - Nobody is sent to a foreign host

A login or a refresh can come with a target to go to afterwards.  Anybody can make one up, so a
session names a target only when its host is permitted.

Main results:

- Theorem `Service.login_redirect` and theorem `Service.refresh_redirect`: a session names the target
  that the request came with, where it is followed, and no other one.
- Theorem `Service.redirects_permitted`: which targets sessions name.
-/

namespace Gatehouse.Access

open Http (Headers)
open Redirect (Carries Permits Permitted allowedTarget? entryText)
open Store (Memory Query Reply User)
open Text (isBlankText trim)
open Token (LoginKind)

variable {σ : Type} {answer : σ → (q : Query) → Reply q × σ} {s : Service} {o : Occasion}

namespace Service

/-! ## Targets that sessions name -/

/-- A session that begins names the target of the request. -/
theorem establish_redirect (request : LoginRequest) (user : User) (kind : LoginKind) :
    (s.establish o request user kind).Gives answer fun session =>
      session.redirectTo = s.redirectTarget request.redirect := by
  unfold establish
  refine CookieFlow.Gives.bind (CookieFlow.gives_true _) fun roles _ => ?_
  simp only
  split
  · refine CookieFlow.Gives.bind (CookieFlow.gives_true _) fun issued _ => ?_
    refine CookieFlow.Gives.bind (CookieFlow.gives_true _) fun refreshToken _ => ?_
    refine CookieFlow.Gives.bind (CookieFlow.gives_true _) fun accessToken _ => ?_
    exact CookieFlow.gives_pure rfl
  · refine CookieFlow.Gives.bind (CookieFlow.gives_true _) fun refreshToken _ => ?_
    refine CookieFlow.Gives.bind (CookieFlow.gives_true _) fun accessToken _ => ?_
    exact CookieFlow.gives_pure rfl

/-- A login names the target that it came with, if it may be followed. -/
theorem login_redirect (request : LoginRequest) (current : Option Principal) :
    (s.login o request current).Gives answer fun outcome =>
      ∀ session, outcome = .established session →
        session.redirectTo = s.redirectTarget request.redirect := by
  have established (user : User) (kind : LoginKind) :
      CookieFlow.Gives answer (fun outcome => ∀ session, outcome = .established session →
        session.redirectTo = s.redirectTarget request.redirect) (do
          let session ← s.establish o request user kind
          return LoginOutcome.established session) := by
    refine CookieFlow.Gives.bind (establish_redirect request user kind) fun session named => ?_
    refine CookieFlow.gives_pure ?_
    rintro _ ⟨⟩
    exact named
  unfold login
  refine CookieFlow.Gives.bind (CookieFlow.gives_true _) fun _ _ => ?_
  cases request.credential with
  | password name password =>
      refine CookieFlow.Gives.bind (CookieFlow.gives_true _) fun user _ => ?_
      split
      · refine CookieFlow.Gives.bind (CookieFlow.gives_true _) fun token _ => ?_
        exact CookieFlow.gives_pure nofun
      · exact established user .password
  | secondFactor token code =>
      refine CookieFlow.Gives.bind (CookieFlow.gives_true _) fun user _ => ?_
      exact established user .mfa

/-- A refresh names the target that it came with, if it may be followed. -/
theorem refresh_redirect (headers : Headers) (requestedTtl : Nat) (redirect : Option String) :
    (s.refresh o headers requestedTtl redirect).Gives answer fun session =>
      session.redirectTo = s.redirectTarget redirect := by
  unfold refresh refreshSigned
  cases Http.Cookie.find? headers s.config.refreshCookie with
  | none => exact CookieFlow.gives_throw _
  | some text =>
      simp only
      cases Token.verify s.config.key o.now text with
      | error e => exact CookieFlow.gives_throw _
      | ok claims =>
          refine CookieFlow.Gives.guard fun _ => ?_
          refine CookieFlow.Gives.bind (CookieFlow.gives_true _) fun rejected _ => ?_
          refine CookieFlow.Gives.guard fun _ => ?_
          refine CookieFlow.Gives.bind (CookieFlow.gives_true _) fun user _ => ?_
          refine CookieFlow.Gives.bind (CookieFlow.gives_true _) fun roles _ => ?_
          refine CookieFlow.Gives.bind (CookieFlow.gives_true _) fun accessToken _ => ?_
          exact CookieFlow.gives_pure rfl

/-! ## Targets that are permitted -/

/-- A target is followed only when the request carries it as Base64 text and it is an address of the
web whose host an entry permits.  Entries count without the blanks around them and in lower case; one
that begins with a dot permits the hosts with a label in front of it and not the domain behind the
dot, any other one just the host that it names, and blank ones permit nothing.  Further entries
permit no less.  Whatever the store answers, the sessions that logins and refreshes end with name
such targets only. -/
theorem redirects_permitted (s : Service) (answer : σ → (q : Query) → Reply q × σ) (state : σ) :
    (∀ requested domains target, allowedTarget? requested domains = some target ↔
      Carries (trim requested) target ∧ Permitted target domains) ∧
    (∀ host entry, entryText entry = entry → (Permits host entry ↔
      (isBlankText entry = false ∧ (¬∃ domain, entry = "." ++ domain) ∧ host = entry) ∨
        ∃ label domain, entry = "." ++ domain ∧ host = label ++ entry)) ∧
    (∀ entry domain, entryText entry = "." ++ domain → ¬Permits domain entry ∧
      ∀ host, Permits host entry ↔ ∃ label, host = label ++ "." ++ domain) ∧
    (∀ host entry, isBlankText entry = true → ¬Permits host entry) ∧
    (∀ requested domains domains' target, domains ⊆ domains' →
      allowedTarget? requested domains = some target →
      allowedTarget? requested domains' = some target) ∧
    (∀ o request current out session,
      (((s.login o request current).run.run out).run answer state).1.1 =
        .ok (.established session) →
      session.redirectTo = request.redirect.bind (allowedTarget? · s.config.redirectDomains)) ∧
    (∀ o headers requestedTtl redirect out session,
      (((s.refresh o headers requestedTtl redirect).run.run out).run answer state).1.1 =
        .ok session →
      session.redirectTo = redirect.bind (allowedTarget? · s.config.redirectDomains)) := by
  refine ⟨?_, ?_, ?_, ?_, ?_, ?_, ?_⟩
  · intro requested domains target
    exact Redirect.allowedTarget?_eq_some_iff
  · intro host entry plain
    exact Redirect.permits_iff_of_plain plain
  · intro entry domain dotted
    exact ⟨Redirect.not_permits_bare dotted, fun host => Redirect.permits_iff_of_dotted dotted⟩
  · intro host entry blank
    exact Redirect.not_permits_of_blank blank
  · intro requested domains domains' target more followed
    exact Redirect.allowedTarget?_mono more followed
  · intro o request current out session ended
    exact (login_redirect request current).run ended session rfl
  · intro o headers requestedTtl redirect out session ended
    exact (refresh_redirect headers requestedTtl redirect).run ended

end Service

/-- A small service that permits the hosts of a house as targets. -/
def houseService : Service :=
  { smallService with config := { smallService.config with redirectDomains := [".house"] } }

theorem houseService_canIssue : Token.CanIssue houseService.config where
  secret := smallService_canIssue.secret
  access := smallService_canIssue.access
  refresh := smallService_canIssue.refresh
  path := smallService_canIssue.path
  domain := smallService_canIssue.domain

/-- Alice logs in on her way to the house. -/
def aliceVisit : LoginRequest :=
  { alicePassword with redirect := some "aHR0cHM6Ly9hcHAuaG91c2UvYQ" }

/-- Alice logs in on her way to the house, and then she is lured to a foreign host with a name alike
when she refreshes.  Her first session names the house, her second one nothing. -/
theorem aliceVisit_permitted :
    Permits "app.house" ".house" ∧ ¬Permits "house" ".house" ∧ ¬Permits "house" " " ∧
    ∃ session out token session' out',
      (houseService.login aliceArrival aliceVisit none).runOn .empty (smallStore none) =
        (.ok (.established session), out, smallStore none) ∧
      session.redirectTo = some "https://app.house/a" ∧
      (houseService.refresh aliceTrading
          ⟨[("cookie", utf8 (houseService.config.refreshCookie ++ "=" ++ token))]⟩ 0
          (some "aHR0cHM6Ly9hcHAuaG91c2UuZXhhbXBsZS8=")).runOn .empty (smallStore none) =
        (.ok session', out', smallStore none) ∧
      session'.redirectTo = none := by
  obtain ⟨-, plain, dotted, blank, -, login, refresh⟩ :=
    Service.redirects_permitted houseService Memory.answer (smallStore none)
  have credential : aliceVisit.credential = .password "alice" "open" := rfl
  obtain ⟨session, out, roles, parent, ended, begun, -⟩ := houseService.login_of_password
    houseService_canIssue aliceArrival .empty none credential (smallStore_loginUser? none)
    (alice_passwordMatches none) rfl
  have named := login aliceArrival aliceVisit none .empty session (CookieFlow.ended_of_runOn ended)
  generalize refreshed : session.refreshToken = refreshToken at begun
  cases begun with
  | alone unwanted => cases unwanted
  | withRefresh issued wanted signedRefresh =>
      have ttl : houseService.config.refreshTtl (alice none).id roles = 100 := rfl
      have verified := Token.verify_newClaims (t := 1054) (by decide) (by decide) signedRefresh
        (by decide) (by rw [ttl]; decide)
      have cookie : Http.IsPairText houseService.config.refreshCookie := by decide
      obtain ⟨text, nonempty⟩ := Token.isPairText_of_sign signedRefresh
      have given := Http.Cookie.find?_of_pair cookie text nonempty
      obtain ⟨session', out', roles', ended', -⟩ := Service.refresh_of_verified
        (m := smallStore none) (o := aliceTrading) houseService_canIssue .empty 0
        (some "aHR0cHM6Ly9hcHAuaG91c2UuZXhhbXBsZS8=") given verified rfl rfl
        (smallStore_activeUser? none)
      have named' := refresh aliceTrading _ 0 _ .empty session'
        (CookieFlow.ended_of_runOn ended')
      refine ⟨(plain "app.house" ".house" (by decide)).2 (.inr ⟨"app", "house", rfl, rfl⟩),
        (dotted ".house" "house" (by decide)).1, blank "house" " " (by decide), session, out,
        issued.token, session', out', ended, named.trans ?_, ended', named'.trans ?_⟩
      · decide +kernel
      · decide +kernel

end Gatehouse.Access
