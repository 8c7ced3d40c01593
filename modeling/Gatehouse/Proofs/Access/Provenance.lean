import Gatehouse.Proofs.Access.Handout
import Gatehouse.Proofs.Access.Revocation

/-!
# Runs of the service - Where tokens come from

Every token that is handed out in a run leads back to a login that ended well: the access tokens of a
session have its refresh token for a parent, and a refresh token has none.  So two rows of the ledger
are all that can be said against a token.

The events of a run are in order, and each of them may find any store: whatever becomes of the
records and of the ledger in between, and whatever the clock shows, is left open.

Main definitions:

- `Admitted` and `Chronicle`: runs with fresh ids, in which the refresh tokens that are traded have
  been handed out.
- `Descends`: a token comes from another one by way of parents.
- `Provenance`: where a token comes from.

Main results:

- Theorem `Chronicle.unique`: tokens of a run have ids of their own.
- Theorem `Chronicle.provenance`: where the tokens come from that a moment hands out.
- Theorem `Chronicle.rejects_iff`: the ledger looks at all that a token comes from.
- Theorem `tokens_descend`: these together.
-/

namespace Gatehouse.Access

open Store (Memory Role User)
open Token (Authentic Claims IsTime LoginKind Scope)

variable {s : Service} {past run : List Moment} {x : Moment} {claims claims' : Claims}

/-! ## Chronicles -/

/-- An event may follow those of the past: its ids are fresh, and a refresh token that it presents
has been handed out. -/
structure Admitted (s : Service) (past : List Moment) (x : Moment) : Prop where
  time : IsTime x.event.time
  once : x.event.freshIds.Nodup
  named : ∀ id ∈ x.event.freshIds, id ≠ ""
  unused : ∀ id ∈ x.event.freshIds, ∀ y ∈ past, id ∉ y.event.freshIds
  genuine : ∀ o headers requestedTtl redirect text claims,
    x.event = .refresh o headers requestedTtl redirect →
    Http.Cookie.find? headers s.config.refreshCookie = some text →
    Token.verify s.config.key o.now text = .ok claims → claims.hasScope .refresh = true →
    ∃ y ∈ past, ∃ scope, y.text? s scope = some text

/-- The moments of a run, the latest first. -/
inductive Chronicle (s : Service) : List Moment → Prop where
  | start : Chronicle s []
  | step {past : List Moment} {x : Moment} (before : Chronicle s past)
      (admitted : Admitted s past x) : Chronicle s (x :: past)

/-- Anybody can log in, whatever the store is. -/
theorem Admitted.login {o : Occasion} (time : IsTime o.now)
    (once : [o.accessId, o.refreshId, o.pendingId].Nodup)
    (named : ∀ id ∈ [o.accessId, o.refreshId, o.pendingId], id ≠ "")
    (unused : ∀ id ∈ [o.accessId, o.refreshId, o.pendingId], ∀ y ∈ past, id ∉ y.event.freshIds)
    (m : Memory) (request : LoginRequest) (current : Option Principal) :
    Admitted s past ⟨m, .login o request current⟩ where
  time := time
  once := once
  named := named
  unused := unused
  genuine _ _ _ _ _ _ event := by cases event

/-- Whoever was handed a refresh token can ask for it to be traded, whatever the store is. -/
theorem Admitted.refresh {o : Occasion} {headers : Http.Headers} {text : String} {y : Moment}
    {scope : Scope} (time : IsTime o.now) (named : o.accessId ≠ "")
    (unused : ∀ y ∈ past, o.accessId ∉ y.event.freshIds)
    (given : Http.Cookie.find? headers s.config.refreshCookie = some text) (hy : y ∈ past)
    (handed : y.text? s scope = some text) (m : Memory) (requestedTtl : Nat)
    (redirect : Option String) :
    Admitted s past ⟨m, .refresh o headers requestedTtl redirect⟩ where
  time := time
  once := List.pairwise_singleton _ _
  named id hid := by
    obtain rfl := List.mem_singleton.1 hid
    exact named
  unused id hid := by
    obtain rfl := List.mem_singleton.1 hid
    exact unused
  genuine o' headers' _ _ text' claims event found _ _ := by
    cases event
    obtain rfl := Option.some.inj (given.symm.trans found)
    exact ⟨y, hy, scope, handed⟩

/-- A token that was handed out in a run says this. -/
def Told (s : Service) (run : List Moment) (claims : Claims) : Prop :=
  ∃ y ∈ run, y.Says s claims

namespace Chronicle

/-- Up to any moment, a run is a run. -/
theorem of_append {later : List Moment} (h : Chronicle s (later ++ past)) : Chronicle s past := by
  induction later with
  | nil => exact h
  | cons x later ih =>
      cases h with
      | step before admitted => exact ih before

/-- Every moment was admitted after those before it. -/
theorem exists_admitted (h : Chronicle s run) {y : Moment} (hy : y ∈ run) :
    ∃ past, Admitted s past y := by
  induction h with
  | start => cases hy
  | @step past x before admitted ih =>
      rcases List.mem_cons.1 hy with rfl | hy
      · exact ⟨past, admitted⟩
      · exact ih hy

theorem time (h : Chronicle s run) {y : Moment} (hy : y ∈ run) : IsTime y.event.time :=
  (h.exists_admitted hy).elim fun _ admitted => admitted.time

/-- Ids are given at one moment only. -/
theorem own (h : Chronicle s run) {y z : Moment} (hy : y ∈ run) (hz : z ∈ run) {id : String}
    (given : id ∈ y.event.freshIds) (given' : id ∈ z.event.freshIds) : y = z := by
  induction h with
  | start => cases hy
  | @step past x before admitted ih =>
      rcases List.mem_cons.1 hy with rfl | later
      · rcases List.mem_cons.1 hz with rfl | later
        · rfl
        · exact absurd given' (admitted.unused id given z later)
      · rcases List.mem_cons.1 hz with rfl | later'
        · exact absurd given (admitted.unused id given' y later)
        · exact ih later later'

/-- Tokens of a run have ids of their own. -/
theorem unique (h : Chronicle s run) (told : Told s run claims) (told' : Told s run claims')
    (same : claims.id = claims'.id) : claims = claims' := by
  obtain ⟨y, hy, tells⟩ := told
  obtain ⟨z, hz, tells'⟩ := told'
  obtain ⟨_, admitted⟩ := h.exists_admitted hy
  have given' := tells'.mem_freshIds (h.time hz)
  rw [← same] at given'
  obtain rfl := h.own hy hz (tells.mem_freshIds admitted.time) given'
  exact tells.unique admitted.time admitted.once tells' same

/-- A refresh token that was handed out comes from a login of its kind and from no other token. -/
theorem loggedIn_of_refresh (h : Chronicle s run) {y : Moment} (hy : y ∈ run)
    (tells : y.Says s claims) (good : claims.hasScope .refresh = true) :
    (∃ kind, claims.loginKind? = some kind ∧ y.LoggedIn s claims.subject kind) ∧
      claims.parent? = none ∧ claims.id ≠ "" ∧ claims.notBefore = claims.issuedAt := by
  obtain ⟨_, admitted⟩ := h.exists_admitted hy
  have named := admitted.named _ (tells.mem_freshIds admitted.time)
  cases tells.issue admitted.time with
  | refresh event loggedIn => exact ⟨⟨_, rfl, loggedIn⟩, rfl, named, rfl⟩
  | pending event | access event _ _ | traded event _ => cases good

end Chronicle

/-! ## Descent -/

/-- A token comes from another one by way of parents that were handed out. -/
inductive Descends (s : Service) (run : List Moment) : Claims → Claims → Prop where
  | self {claims : Claims} : Descends s run claims claims
  | parent {claims parent ancestor : Claims} (derived : claims.parent? = some parent.id)
      (told : Told s run parent) (rest : Descends s run parent ancestor) :
      Descends s run claims ancestor

/-- Where a token comes from that was handed out at the last moment of the past. -/
structure Provenance (s : Service) (past : List Moment) (claims : Claims) : Prop where
  /-- Only access tokens have parents. -/
  rootless : claims.hasScope .refresh = true ∨ claims.hasScope .pending = true →
    claims.parent? = none
  /-- The parent is a refresh token of the same user and kind that was handed out no later.  It is
  dated no later either, unless it is dated before the epoch. -/
  parent : ∀ id, claims.parent? = some id → ∃ parent, Told s past parent ∧ parent.id = id ∧
    parent.hasScope .refresh = true ∧ parent.subject = claims.subject ∧
    parent.loginKind? = claims.loginKind? ∧
    (0 ≤ parent.issuedAt → parent.issuedAt ≤ claims.issuedAt)
  /-- Tokens of a session tell how it began. -/
  kind : claims.hasScope .access = true ∨ claims.hasScope .refresh = true →
    claims.loginKind? = some .password ∨ claims.loginKind? = some .mfa
  /-- The token comes from a token that a login of its user and kind handed out. -/
  login : ∀ kind, claims.loginKind? = some kind → ∃ ancestor, Descends s past claims ancestor ∧
    ∃ y ∈ past, y.Says s ancestor ∧ y.LoggedIn s claims.subject kind

/-- A login is of one of two kinds. -/
theorem Moment.LoggedIn.kind_eq {userId : String} {kind : LoginKind}
    (h : x.LoggedIn s userId kind) : some kind = some .password ∨ some kind = some .mfa := by
  cases h with
  | password => exact .inl rfl
  | secondFactor => exact .inr rfl

namespace Chronicle

/-- An access token for which a refresh token was traded comes from the login that handed out the
refresh token. -/
theorem provenance_of_traded (before : Chronicle s past) (admitted : Admitted s past x)
    {o : Occasion} {headers : Http.Headers} {requestedTtl : Nat} {redirect : Option String}
    {text : String} {parent : Claims} {user : User} {roles : List Role} {session : Session}
    (event : x.event = .refresh o headers requestedTtl redirect)
    (traded : s.Traded o headers requestedTtl x.before text parent user roles session) :
    Provenance s (x :: past) (Token.accessClaims s.config o.now o.accessId user roles requestedTtl
      (some parent.id) session.kind) := by
  obtain ⟨y, hy, scope, handed⟩ := admitted.genuine o headers requestedTtl redirect text parent
    event traded.given traded.verified traded.scope
  have parentTells : y.Says s parent :=
    ⟨scope, text, handed, Token.authentic_of_verify traded.verified⟩
  have told : Told s (x :: past) parent := ⟨y, List.mem_cons_of_mem _ hy, parentTells⟩
  obtain ⟨⟨kind, known, loggedIn⟩, -, named, dated⟩ :=
    before.loggedIn_of_refresh hy parentTells traded.scope
  -- The refresh token is accepted, so that its window has begun.
  obtain ⟨-, -, begun⟩ := Token.checkWindow_eq_ok.1 (Token.checkWindow_of_verify traded.verified)
  rw [dated] at begun
  have sameKind : session.kind = kind := by rw [traded.kind, known]; rfl
  -- The user is looked up again, under the same id.
  obtain ⟨record, rfl, sameUser, -, -⟩ := Memory.exists_of_activeUser? traded.active
  have owner : parent.subject = record.id := sameUser.symm
  have derived : Option.filter (fun id : String => !id.isEmpty) (some parent.id) =
      some parent.id :=
    Option.filter_eq_some_iff.2 ⟨rfl, by simpa using named⟩
  rw [sameKind]
  refine ⟨?_, fun id same => ?_, fun _ => loggedIn.kind_eq, fun kind' same => ?_⟩
  · rintro (good | good) <;> cases good
  · obtain rfl := Option.some.inj (derived.symm.trans same)
    exact ⟨parent, told, rfl, traded.scope, owner, known, begun⟩
  · obtain rfl := Option.some.inj same
    rw [owner] at loggedIn
    exact ⟨parent, .parent derived told .self, y, List.mem_cons_of_mem _ hy, parentTells, loggedIn⟩

/-- Where a token comes from that the last moment hands out. -/
theorem provenance (h : Chronicle s (x :: past)) (tells : x.Says s claims) :
    Provenance s (x :: past) claims := by
  have time := h.time List.mem_cons_self
  cases tells.issue time with
  | pending event =>
      refine ⟨fun _ => rfl, nofun, ?_, nofun⟩
      rintro (good | good) <;> cases good
  | refresh event loggedIn =>
      refine ⟨fun _ => rfl, nofun, fun _ => loggedIn.kind_eq, fun kind same => ?_⟩
      obtain rfl := Option.some.inj same
      exact ⟨_, .self, x, List.mem_cons_self, tells, loggedIn⟩
  | @access o request current user roles kind parent event loggedIn derived =>
      refine ⟨?_, fun id same => ?_, fun _ => loggedIn.kind_eq, fun kind same => ?_⟩
      · rintro (good | good) <;> cases good
      · obtain ⟨given, -⟩ := Option.filter_eq_some_iff.1 same
        obtain ⟨rfl, text, handed, signed⟩ := derived id given
        have issue : x.Issue s (Token.refreshClaims s.config o.now o.refreshId user roles kind) :=
          .refresh event loggedIn
        have authentic := Token.authentic_of_sign signed (issue.origin.isTimely time)
        exact ⟨_, ⟨x, List.mem_cons_self, .refresh, text, handed, authentic⟩, rfl, rfl, rfl, rfl,
          fun _ => Int.le_refl _⟩
      · obtain rfl := Option.some.inj same
        exact ⟨_, .self, x, List.mem_cons_self, tells, loggedIn⟩
  | traded event traded =>
      cases h with
      | step before admitted => exact before.provenance_of_traded admitted event traded

/-- The parent of a token was handed out and has no parent itself. -/
theorem exists_parent (h : Chronicle s run) (told : Told s run claims) {id : String}
    (derived : claims.parent? = some id) :
    ∃ parent, Told s run parent ∧ parent.id = id ∧ parent.parent? = none := by
  obtain ⟨x, hx, tells⟩ := told
  obtain ⟨later, past, rfl⟩ := List.append_of_mem hx
  obtain ⟨parent, ⟨y, hy, parentTells⟩, named, good, -⟩ :=
    (h.of_append.provenance tells).parent id derived
  exact ⟨parent, ⟨y, List.mem_append_right _ hy, parentTells⟩, named,
    (h.of_append.loggedIn_of_refresh hy parentTells good).2.1⟩

/-- The ledger looks at all that a token comes from. -/
theorem rejects_iff (h : Chronicle s run) (told : Told s run claims) (m : Memory) :
    m.rejects claims = true ↔
      ∃ ancestor, Descends s run claims ancestor ∧ m.rejections.contains ancestor.id = true := by
  rw [Memory.rejects, Bool.or_eq_true]
  constructor
  · rintro (own | above)
    · exact ⟨claims, .self, own⟩
    · cases derived : claims.parent? with
      | none =>
          rw [derived] at above
          cases above
      | some id =>
          rw [derived] at above
          obtain ⟨parent, toldParent, rfl, -⟩ := h.exists_parent told derived
          exact ⟨parent, .parent derived toldParent .self, above⟩
  · rintro ⟨ancestor, descends, listed⟩
    cases descends with
    | self => exact .inl listed
    | @parent _ parent _ derived toldParent rest =>
        obtain ⟨root, toldRoot, named, rootless⟩ := h.exists_parent told derived
        obtain rfl := h.unique toldRoot toldParent named
        cases rest with
        | self =>
            right
            rw [derived]
            exact listed
        | parent derived' =>
            rw [rootless] at derived'
            cases derived'

end Chronicle

/-- The tokens that are handed out in a run have ids of their own and lead back to logins that ended
well, in one step at most, and the ledger looks at all that they come from. -/
theorem tokens_descend (s : Service) {run : List Moment} (h : Chronicle s run) :
    (∀ later x past scope text, run = later ++ x :: past → x.text? s scope = some text →
      ∃ claims, Authentic s.config.key text claims ∧ claims.hasScope scope = true ∧
        Provenance s (x :: past) claims ∧
        ∀ m : Memory, m.rejects claims = true ↔ ∃ ancestor, Descends s run claims ancestor ∧
          m.rejections.contains ancestor.id = true) ∧
    ∀ claims claims', Told s run claims → Told s run claims' → claims.id = claims'.id →
      claims = claims' := by
  refine ⟨?_, fun _ _ => h.unique⟩
  rintro later x past scope text rfl handed
  have hx : x ∈ later ++ x :: past := List.mem_append_right _ List.mem_cons_self
  obtain ⟨claims, issue, good, signed⟩ := Moment.exists_issue handed
  have authentic := Token.authentic_of_sign signed (issue.origin.isTimely (h.time hx))
  have tells : x.Says s claims := ⟨scope, text, handed, authentic⟩
  exact ⟨claims, authentic, good, h.of_append.provenance tells, h.rejects_iff ⟨x, hx, tells⟩⟩

/-- Alice's password is right, and she gets a session. -/
theorem aliceLogin_established :
    ∃ session out roles parent,
      (smallService.login aliceArrival alicePassword none).runOn .empty (smallStore none) =
        (.ok (.established session), out, smallStore none) ∧
      Service.Begun smallService aliceArrival alicePassword (alice none) roles .password
        session.refreshToken parent := by
  have credential : alicePassword.credential = .password "alice" "open" := rfl
  obtain ⟨session, out, roles, parent, ended, begun, -⟩ := smallService.login_of_password
    smallService_canIssue aliceArrival .empty none credential (smallStore_loginUser? none)
    (alice_passwordMatches none) rfl
  exact ⟨session, out, roles, parent, ended, begun⟩

/-- Alice logs in with her password and trades her refresh token, which is the parent of the access
token that she is given for it. -/
theorem aliceTrading_descends :
    ∃ refreshText run text claims, run = [⟨smallStore none, aliceRefresh refreshText⟩,
        ⟨smallStore none, aliceLogin⟩] ∧ Chronicle smallService run ∧
      Moment.text? smallService ⟨smallStore none, aliceRefresh refreshText⟩ .access = some text ∧
      Authentic smallService.config.key text claims ∧ claims.parent? = some "r" ∧
      ∃ y ∈ run, y.LoggedIn smallService "1" .password := by
  obtain ⟨session, out, roles, parent, ended, begun⟩ := aliceLogin_established
  have handed := Moment.refreshText?_of_login (x := ⟨smallStore none, aliceLogin⟩) rfl
    (congrArg Prod.fst ended)
  generalize session.refreshToken = refreshToken at handed begun
  cases begun with
  | alone unwanted => cases unwanted
  | withRefresh issued wanted signedRefresh =>
      have verified := Token.verify_newClaims (t := 1054) (by decide) (by decide) signedRefresh
        (by decide) (by rw [smallService_refreshTtl]; decide)
      have cookie : Http.IsPairText smallService.config.refreshCookie := by decide
      obtain ⟨plain, nonempty⟩ := Token.isPairText_of_sign signedRefresh
      have given := Http.Cookie.find?_of_pair cookie plain nonempty
      obtain ⟨session', out', roles', ended', signed⟩ := Service.refresh_of_verified
        (m := smallStore none) (o := aliceTrading) smallService_canIssue .empty 0 none given verified
        rfl rfl (smallStore_activeUser? none)
      have first : Admitted smallService [] ⟨smallStore none, aliceLogin⟩ :=
        .login (by decide) (by decide) (by decide) (fun _ _ y hy => absurd hy List.not_mem_nil) _ _ _
      have unused : ∀ y ∈ [(⟨smallStore none, aliceLogin⟩ : Moment)],
          aliceTrading.accessId ∉ y.event.freshIds := by
        intro y hy
        obtain rfl := List.mem_singleton.1 hy
        decide
      have second : Admitted smallService [⟨smallStore none, aliceLogin⟩]
          ⟨smallStore none, aliceRefresh issued.token⟩ :=
        .refresh (by decide) (by decide) unused given List.mem_cons_self
          (show Moment.text? _ _ .refresh = _ from handed) _ _ _
      have chronicle := (Chronicle.start.step first).step second
      have traded := Moment.accessText?_of_refresh
        (x := ⟨smallStore none, aliceRefresh issued.token⟩) rfl (congrArg Prod.fst ended')
      obtain ⟨claims, authentic, -, provenance, -⟩ :=
        (tokens_descend smallService chronicle).1 [] _ _ .access _ rfl traded
      obtain rfl := (Token.authentic_of_sign signed
        (Token.isTimely_newClaims (by decide))).unique authentic
      obtain ⟨-, -, y, hy, -, loggedIn⟩ := provenance.login .password rfl
      exact ⟨issued.token, _, _, _, rfl, chronicle, traded, authentic, rfl, y, hy, loggedIn⟩

end Gatehouse.Access
