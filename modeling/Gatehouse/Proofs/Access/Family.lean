import Gatehouse.Proofs.Access.Revocation
import Gatehouse.Proofs.Access.Serving
import Mathlib.Data.List.Nodup
import Mathlib.Data.List.Pairwise

/-!
# Session families - What goes down with a logout

Whatever the order of their steps, the requests that are served leave the rows of the sessions that
they end in the ledger and nothing else.  Ids are never given twice and no access token has the id
of a refresh token, so each row rejects the family of its session and nobody else.

Main definitions:

- `InFamily`: the tokens that go down with a session.
- `Event.freshTokens`: the ids that new tokens are given, with their purposes.
- `Pool.Origin`: what the tokens say that may be issued in a pool.

Main results:

- Theorem `Sound.scopes_eq` and theorem `Sound.eq_of_id`: tokens with one id.
- Theorem `Sound.family_of_rejected`: tokens are rejected only for a session of their family.
- Theorem `Sound.rejected_of_family`: a session that has ended has taken its family with it.
- Theorem `Reached.apart`: a request does not end the session that it begins.
- Theorem `rejected_iff_family_ended`: a token is rejected exactly when its family was ended.
-/

namespace Gatehouse.Access

open Store (Action Memory Query Rejection Reply)
open Token (Claims Scope)

variable {s : Service} {m : Memory} {pool : Pool} {x y : Thread} {t p : Claims}

/-- The token that says `t` goes down with the session of the access token that says `p`: it is that
token, the refresh token that it was derived from, or an access token derived from that one. -/
def InFamily (p t : Claims) : Prop :=
  t = p ∨ (t.hasScope .refresh = true ∧ p.parent? = some t.id) ∨
    (t.hasScope .access = true ∧ ∃ parent, p.parent? = some parent ∧ t.parent? = some parent)

/-! ## Tokens and their ids -/

/-- The ids that new tokens are given, with their purposes. -/
def Event.freshTokens : Event → List (String × Scope)
  | .login o .. => [(o.accessId, .access), (o.refreshId, .refresh), (o.pendingId, .pending)]
  | .refresh o .. => [(o.accessId, .access)]
  | .logout .. | .cleanup _ | .administer .. => []

theorem Event.freshIds_eq (e : Event) : e.freshIds = e.freshTokens.map (·.1) := by
  cases e <;> rfl

/-- A new token has one purpose and the id that was meant for it. -/
theorem Moment.Origin.exists_scope {z : Moment} (h : z.Origin s t) :
    ∃ scope, t.scopes = [scope] ∧ (t.id, scope) ∈ z.event.freshTokens := by
  cases h with
  | login event derived => exact ⟨.access, rfl, by rw [event]; exact .head _⟩
  | refresh event given verified scope => exact ⟨.access, rfl, by rw [event]; exact .head _⟩
  | refreshToken event => exact ⟨.refresh, rfl, by rw [event]; exact .tail _ (.head _)⟩
  | pending event => exact ⟨.pending, rfl, by rw [event]; exact .tail _ (.tail _ (.head _))⟩

theorem Moment.Origin.mem_freshIds {z : Moment} (h : z.Origin s t) : t.id ∈ z.event.freshIds := by
  obtain ⟨scope, -, meant⟩ := h.exists_scope
  rw [Event.freshIds_eq]
  exact List.mem_map_of_mem meant

/-- A token has no two purposes. -/
theorem Moment.Origin.eq_of_hasScope {z : Moment} (h : z.Origin s t) {scope scope' : Scope}
    (first : t.hasScope scope = true) (second : t.hasScope scope' = true) : scope = scope' := by
  obtain ⟨only, scopes, -⟩ := h.exists_scope
  simp only [Claims.hasScope, scopes, List.contains_cons, List.contains_nil, Bool.or_false,
    beq_iff_eq] at first second
  exact first.trans second.symm

/-- The tokens of a request that have one id have one purpose. -/
theorem Moment.Origin.scopes_eq {z : Moment} (once : z.event.freshIds.Nodup) (h : z.Origin s t)
    (h' : z.Origin s p) (same : t.id = p.id) : t.scopes = p.scopes := by
  obtain ⟨scope, scopes, meant⟩ := h.exists_scope
  obtain ⟨scope', scopes', meant'⟩ := h'.exists_scope
  rw [Event.freshIds_eq] at once
  have one := List.inj_on_of_nodup_map once meant meant' same
  rw [scopes, scopes', (Prod.mk.inj one).2]

/-- Only access tokens are derived from others. -/
theorem Moment.Origin.hasScope_of_parent {z : Moment} (h : z.Origin s t) {parent : String}
    (derived : t.parent? = some parent) : t.hasScope .access = true := by
  cases h with
  | login event _ => rfl
  | refresh event given verified scope => rfl
  | refreshToken event => cases derived
  | pending event => cases derived

/-! ## Tokens in a pool -/

/-- What a token says that may be issued in a pool. -/
def Pool.Origin (s : Service) (pool : Pool) (t : Claims) : Prop :=
  ∃ x ∈ pool.threads, x.toMoment.Origin s t

namespace Sound

/-- Every text that was handed out was signed by its request. -/
theorem exists_signed (sound : Sound s m pool) (hx : x ∈ pool.threads) {text : String}
    (h : x.Issued s text) :
    ∃ claims, x.toMoment.Origin s claims ∧
      Token.sign s.config.algorithm s.config.key claims = .ok text := by
  have goesOn := sound.goesOn x hx
  cases h with
  | access ended handed =>
      rw [ended] at goesOn
      obtain ⟨claims, origin, -, signed⟩ := goesOn.2.access text handed
      exact ⟨claims, origin, signed⟩
  | pending ended handed =>
      rw [ended] at goesOn
      obtain ⟨claims, origin, -, signed⟩ := goesOn.2.pending text handed
      exact ⟨claims, origin, signed⟩
  | refresh login signed => exact ⟨_, .refreshToken login, signed⟩

/-- What a text says that was handed out, as verification reads it. -/
theorem origin_of_issued (sound : Sound s m pool) (hx : x ∈ pool.threads) {text : String}
    (h : x.Issued s text) {now : Token.Time}
    (verified : Token.verify s.config.key now text = .ok t) : x.toMoment.Origin s t := by
  obtain ⟨claims, origin, signed⟩ := sound.exists_signed hx h
  rw [Token.eq_of_verify_sign signed (origin.isTimely (sound.accepted x hx).time) verified]
  exact origin

theorem origin (sound : Sound s m pool) (h : pool.Issued s t) : pool.Origin s t := by
  obtain ⟨text, now, ⟨x, hx, issued⟩, verified⟩ := h
  exact ⟨x, hx, sound.origin_of_issued hx issued verified⟩

/-- No two requests were given one id. -/
theorem eq_of_mem_freshIds (sound : Sound s m pool) (hx : x ∈ pool.threads)
    (hy : y ∈ pool.threads) {id : String} (hidx : id ∈ x.event.freshIds)
    (hidy : id ∈ y.event.freshIds) : x = y := by
  have symm : Std.Symm fun x y : Thread => ∀ id ∈ x.event.freshIds, id ∉ y.event.freshIds :=
    ⟨fun _ _ apart id hid hid' => apart id hid' hid⟩
  by_contra other
  exact sound.own.forall hx hy other id hidx hidy

/-- Tokens with one id have one purpose. -/
theorem scopes_eq (sound : Sound s m pool) (h : pool.Origin s t) (h' : pool.Origin s p)
    (same : t.id = p.id) : t.scopes = p.scopes := by
  obtain ⟨x, hx, origin⟩ := h
  obtain ⟨y, hy, origin'⟩ := h'
  have shared := origin'.mem_freshIds
  rw [← same] at shared
  obtain rfl := sound.eq_of_mem_freshIds hx hy origin.mem_freshIds shared
  exact origin.scopes_eq (sound.accepted x hx).once origin' same

/-- A request hands out one access token at most. -/
theorem access_of_issued (sound : Sound s m pool) (hx : x ∈ pool.threads) {text : String}
    (h : x.Issued s text) {now : Token.Time}
    (verified : Token.verify s.config.key now text = .ok t)
    (scope : t.hasScope .access = true) :
    ∃ handout, x.rest = .done handout ∧ handout.access = some text := by
  have time := (sound.accepted x hx).time
  have signed_for {claims : Claims} (origin : x.toMoment.Origin s claims)
      (signed : Token.sign s.config.algorithm s.config.key claims = .ok text) : t = claims :=
    Token.eq_of_verify_sign signed (origin.isTimely time) verified
  cases h with
  | @access handout ended handed => exact ⟨handout, ended, handed⟩
  | pending ended handed =>
      have goesOn := sound.goesOn x hx
      rw [ended] at goesOn
      obtain ⟨claims, origin, pending, signed⟩ := goesOn.2.pending text handed
      obtain rfl := signed_for origin signed
      cases origin.eq_of_hasScope scope pending
  | refresh login signed =>
      obtain rfl := signed_for (.refreshToken login) signed
      cases scope

/-- Access tokens with one id say the same. -/
theorem eq_of_id (sound : Sound s m pool) (h : pool.Issued s t) (h' : pool.Issued s p)
    (scope : t.hasScope .access = true) (scope' : p.hasScope .access = true)
    (same : t.id = p.id) : t = p := by
  obtain ⟨text, now, ⟨x, hx, issued⟩, verified⟩ := h
  obtain ⟨text', now', ⟨y, hy, issued'⟩, verified'⟩ := h'
  have origin := sound.origin_of_issued hx issued verified
  have shared := (sound.origin_of_issued hy issued' verified').mem_freshIds
  rw [← same] at shared
  obtain rfl := sound.eq_of_mem_freshIds hx hy origin.mem_freshIds shared
  obtain ⟨handout, ended, handed⟩ := sound.access_of_issued hx issued verified scope
  obtain ⟨handout', ended', handed'⟩ := sound.access_of_issued hx issued' verified' scope'
  cases ended.symm.trans ended'
  cases handed.symm.trans handed'
  obtain ⟨claims, origin, signed⟩ := sound.exists_signed hx issued
  have timely := origin.isTimely (sound.accepted x hx).time
  rw [Token.eq_of_verify_sign signed timely verified,
    Token.eq_of_verify_sign signed timely verified']

/-- A token is derived from a refresh token. -/
theorem exists_parent (sound : Sound s m pool) (h : pool.Origin s t) {parent : String}
    (derived : t.parent? = some parent) :
    ∃ c, pool.Origin s c ∧ c.hasScope .refresh = true ∧ c.id = parent := by
  obtain ⟨x, hx, origin⟩ := h
  obtain ⟨given, -⟩ := Option.filter_eq_some_iff.1 derived
  cases origin with
  | @login o request current user roles parent' kind event from_ =>
      rcases from_ with rfl | rfl
      · cases given
      · cases given
        exact ⟨Token.refreshClaims s.config o.now o.refreshId user roles kind,
          ⟨x, hx, .refreshToken event⟩, rfl, rfl⟩
  | @refresh o headers requestedTtl redirect text traded user roles kind event found verified
      scope =>
      cases given
      have presented : x.event.presented? s = some text := by
        rw [event]
        exact found
      obtain ⟨y, hy, issued⟩ := (sound.accepted x hx).genuine text presented o.now traded verified
      exact ⟨traded, ⟨y, hy, sound.origin_of_issued hy issued verified⟩, scope, rfl⟩
  | refreshToken event => cases given
  | pending event => cases given

/-! ## Rows -/

/-- A row that a request has written is one of those that end its session, and the first of them is
written. -/
theorem exists_ends (sound : Sound s m pool) (hx : x ∈ pool.threads) {row : Rejection}
    (written : .reject row ∈ x.asked) :
    ∃ p, x.Ends p ∧ .reject row ∈ Ledger.endingQueries s.config p := by
  obtain ⟨asked, made, -⟩ := (sound.goesOn x hx).run m
  rw [List.filter_append] at made
  have changed : .reject row ∈ x.asked.filter Query.changesLedger :=
    List.mem_filter.2 ⟨written, rfl⟩
  have ending : .reject row ∈ s.endingChanges x.event.ended? := by
    rw [← made]
    exact List.mem_append_left _ changed
  cases ended : x.event.ended? with
  | none =>
      rw [ended] at ending
      cases ending
  | some p =>
      rw [ended] at ending made
      refine ⟨p, ⟨ended, ?_⟩, ending⟩
      -- The changes so far are a beginning of all changes, and not an empty one.
      cases changes : x.asked.filter Query.changesLedger with
      | nil => simp [changes] at changed
      | cons first others =>
          rw [changes] at made
          have same : first = .reject (Ledger.rowOf p) := (List.cons.inj made).1
          have found : first ∈ x.asked.filter Query.changesLedger := by simp [changes]
          rw [← same]
          exact (List.mem_filter.1 found).1

/-- Names of new tokens are in the ledger only for a session that has begun to end. -/
theorem exists_of_contains (sound : Sound s m pool) (h : pool.Origin s t)
    (found : pool.memory.rejections.contains t.id = true) :
    ∃ x ∈ pool.threads, ∃ p, x.Ends p ∧ (t.id = p.id ∨ p.parent? = some t.id) := by
  obtain ⟨z, hz, origin⟩ := h
  rcases (sound.ledger t.id).1 found with old | ⟨x, hx, row, written, named⟩
  · have absent := (sound.accepted z hz).absent t.id origin.mem_freshIds
    cases absent.symm.trans old
  · obtain ⟨p, ends, ending⟩ := sound.exists_ends hx written
    refine ⟨x, hx, p, ends, ?_⟩
    rcases Ledger.mem_endingQueries_iff.1 ending with rfl | ⟨parent, derived, rfl⟩
    · exact .inl named.symm
    · right
      rw [derived, ← named]
      rfl

/-- Tokens are rejected only for a session of their family that has begun to end. -/
theorem family_of_rejected (sound : Sound s m pool) (issued : pool.Issued s t)
    (rejected : pool.memory.rejects t = true) :
    ∃ x ∈ pool.threads, ∃ p, x.Ends p ∧ InFamily p t := by
  have origin := sound.origin issued
  have purposed {c : Claims} {wanted : Scope} (hc : pool.Origin s c)
      (scope : c.hasScope wanted = true) {c' : Claims} (hc' : pool.Origin s c')
      (same : c'.id = c.id) : c'.hasScope wanted = true := by
    rw [Claims.hasScope, sound.scopes_eq hc' hc same]
    exact scope
  rw [Memory.rejects, Bool.or_eq_true] at rejected
  rcases rejected with own | derived
  · obtain ⟨x, hx, p, ends, same | parent⟩ := sound.exists_of_contains origin own
    · obtain ⟨granted, access⟩ := (sound.accepted x hx).principal p ends.1
      have scope := purposed (sound.origin granted) access origin same
      exact ⟨x, hx, p, ends, .inl (sound.eq_of_id issued granted scope access same)⟩
    · obtain ⟨granted, access⟩ := (sound.accepted x hx).principal p ends.1
      obtain ⟨c, hc, refresh, same⟩ := sound.exists_parent (sound.origin granted) parent
      exact ⟨x, hx, p, ends, .inr (.inl ⟨purposed hc refresh origin same.symm, parent⟩)⟩
  · obtain ⟨parent, hparent, found⟩ := (Option.any_eq_true _ _).1 derived
    obtain ⟨c, hc, refresh, rfl⟩ := sound.exists_parent origin hparent
    obtain ⟨x, hx, p, ends, same | shared⟩ := sound.exists_of_contains hc found
    · -- No access token has the id of a refresh token.
      obtain ⟨granted, access⟩ := (sound.accepted x hx).principal p ends.1
      obtain ⟨z, hz, made⟩ := sound.origin granted
      cases made.eq_of_hasScope access
        (purposed hc refresh (sound.origin granted) same.symm)
    · obtain ⟨z, hz, made⟩ := origin
      exact ⟨x, hx, p, ends, .inr (.inr ⟨made.hasScope_of_parent hparent, c.id, shared, hparent⟩)⟩

/-- A session that has ended has taken its family with it. -/
theorem rejected_of_family (sound : Sound s m pool) (settled : pool.Settled s)
    (hx : x ∈ pool.threads) (ends : x.Ends p) (family : InFamily p t) :
    pool.memory.rejects t = true := by
  have named {row : Rejection} (ending : .reject row ∈ Ledger.endingQueries s.config p) :
      pool.memory.rejections.contains row.tokenId = true :=
    (sound.ledger row.tokenId).2 (.inr ⟨x, hx, row, settled x hx p ends _ ending, rfl⟩)
  have parentNamed {parent : String} (derived : p.parent? = some parent) :
      pool.memory.rejections.contains parent = true :=
    named (Ledger.mem_endingQueries_iff.2 (.inr ⟨parent, derived, rfl⟩))
  rw [Memory.rejects, Bool.or_eq_true]
  rcases family with rfl | ⟨-, derived⟩ | ⟨-, parent, derived, shared⟩
  · exact .inl (named (Ledger.mem_endingQueries_iff.2 (.inl rfl)))
  · exact .inl (parentNamed derived)
  · right
    rw [shared]
    exact parentNamed derived

end Sound

/-! ## New sessions -/

/-- A request does not end the session that it begins: the tokens of the session that it comes with
were issued before. -/
theorem Reached.apart (h : Reached s m pool) (hx : x ∈ pool.threads)
    (event : x.event.ended? = some p) :
    p.id ∉ x.event.freshIds ∧ ∀ parent, p.parent? = some parent → parent ∉ x.event.freshIds := by
  induction h generalizing x with
  | start => exact absurd hx List.not_mem_nil
  | @step pool pool' before step ih =>
      cases step with
      | arrive known admitted =>
          rcases List.mem_cons.1 hx with rfl | hx
          · have old := before.sound.origin (admitted.principal p event).1
            constructor
            · intro hid
              obtain ⟨y, hy, origin⟩ := old
              exact admitted.unused p.id hid y hy origin.mem_freshIds
            · intro parent derived hid
              obtain ⟨c, ⟨y, hy, origin⟩, -, rfl⟩ := before.sound.exists_parent old derived
              exact admitted.unused c.id hid y hy origin.mem_freshIds
          · exact ih hx event
      | @ask memory first others y q next waits =>
          rcases mem_answered (x := y) hx with rfl | hx
          · have asking : y ∈ first ++ y :: others := by simp
            exact ih (x := y) asking event
          · exact ih hx event

/-- The new tokens of a request are not in the family of the session that it ends. -/
theorem Reached.not_inFamily (h : Reached s m pool) (hx : x ∈ pool.threads)
    (event : x.event.ended? = some p) (new : x.toMoment.Origin s t) : ¬InFamily p t := by
  obtain ⟨own, derived⟩ := h.apart hx event
  have fresh := new.mem_freshIds
  rintro (rfl | ⟨-, parent⟩ | ⟨-, parent, hparent, shared⟩)
  · exact own fresh
  · exact derived t.id parent fresh
  · -- The parent of a new access token is new itself, or belongs to a refresh, which ends nothing.
    obtain ⟨given, -⟩ := Option.filter_eq_some_iff.1 shared
    have meant := derived parent hparent
    cases new with
    | @login o request current user roles parent' kind login from_ =>
        rcases from_ with rfl | rfl
        · cases given
        · cases given
          apply meant
          rw [login]
          exact List.mem_cons_of_mem _ List.mem_cons_self
    | refresh refresh found verified scope =>
        rw [refresh] at event
        cases event
    | refreshToken login => cases given
    | pending login => cases given

/-! ## A login while a refresh waits -/

/-- When Alice switches to a new session, and the ids of its tokens. -/
def aliceSwitch : Occasion :=
  ⟨1055, "c", "d", "e", "k", []⟩

/-- Alice logs in, and her refresh asks the ledger. -/
theorem aliceRefresh_asked :
    ∃ login refresh : Thread, ∃ text roles refreshText traded,
      Reached smallService (smallStore none) ⟨smallStore none, [refresh, login]⟩ ∧
      login.event = aliceLogin ∧ login.rest = .done ⟨some text, none⟩ ∧
      Token.sign smallService.config.algorithm smallService.config.key
        (Token.accessClaims smallService.config 1000 "a" (alice none) roles 0 (some "r")
          .password) = .ok text ∧
      refresh.event = aliceRefresh refreshText ∧
      refresh.rest = (smallService.trade aliceTrading traded 0 none).program Session.handout ∧
      traded.id = "r" ∧ traded.subject = "1" := by
  have empty : Reached smallService (smallStore none) ⟨smallStore none, []⟩ := .start
  have arrives : Pool.Admits smallService (smallStore none) ⟨smallStore none, []⟩ aliceLogin :=
    .login rfl (by decide) (by decide) (fun _ _ => rfl) (fun _ _ _ h => absurd h List.not_mem_nil)
      fun _ h => by cases h
  obtain ⟨asked, roles, text, refreshText, reached, signed, signedRefresh⟩ :=
    empty.login_of_password smallService_canIssue arrives rfl rfl (smallStore_loginUser? none)
      (alice_passwordMatches none) rfl
  let login : Thread := ⟨⟨smallStore none, aliceLogin⟩, asked, .done ⟨some text, none⟩⟩
  have cookie : Http.IsPairText smallService.config.refreshCookie := by decide
  obtain ⟨plain, nonempty⟩ := Token.isPairText_of_sign signedRefresh
  have given := Http.Cookie.find?_of_pair cookie plain nonempty
  have verified := Token.verify_newClaims (t := 1054) (by decide) (by decide) signedRefresh
    (by decide) (by rw [smallService_refreshTtl]; decide)
  have unused : ∀ x ∈ [login], aliceTrading.accessId ∉ x.event.freshIds := by
    intro x hx
    obtain rfl := List.mem_singleton.1 hx
    exact (by decide : "b" ∉ ["a", "r", "p"])
  have known : Pool.Knows smallService ⟨smallStore none, [login]⟩ refreshText :=
    ⟨login, List.mem_singleton_self _, .refresh rfl signedRefresh⟩
  have refreshing : Pool.Admits smallService (smallStore none) ⟨smallStore none, [login]⟩
      (aliceRefresh refreshText) := .refresh (by decide) rfl unused given known 0 none
  obtain ⟨asked', reached'⟩ := Reached.refresh_asked reached refreshing given verified rfl rfl
  exact ⟨login, _, text, roles, refreshText, _, reached', rfl, rfl, signed, rfl, rfl, rfl, rfl⟩

/-- Alice logs in again while her refresh waits, which ends her session. -/
theorem aliceSwitch_served :
    ∃ (returning refresh login : Thread) (memory : Memory) (a traded : Claims)
        (roles : List Store.Role) (text : String),
      Reached smallService (smallStore none) ⟨memory, [returning] ++ refresh :: [login]⟩ ∧
      memory.activeUser? traded.subject = some (alice none) ∧
      returning.event.ended? = some a ∧ a.id = "a" ∧ a.parent? = some "r" ∧
      returning.rest = .done ⟨some text, none⟩ ∧
      Token.sign smallService.config.algorithm smallService.config.key
        (Token.accessClaims smallService.config 1055 "c" (alice none) roles 0 (some "d")
          .password) = .ok text ∧
      refresh.event.ended? = none ∧
      refresh.rest = (smallService.trade aliceTrading traded 0 none).program Session.handout ∧
      traded.id = "r" ∧ login.event.ended? = none ∧ ∃ handout, login.rest = .done handout := by
  obtain ⟨login, refresh, text, roles, refreshText, traded, reached, loginEvent, loginRest, signed,
    refreshEvent, refreshRest, tradedId, subject⟩ := aliceRefresh_asked
  let a := Token.accessClaims smallService.config 1000 "a" (alice none) roles 0 (some "r") .password
  have granted : Pool.Issued smallService ⟨smallStore none, [refresh, login]⟩ a := by
    refine Pool.Knows.issued_of_newClaims ?_ (by decide) (by decide) signed
    exact ⟨login, List.mem_cons_of_mem _ List.mem_cons_self, .access loginRest rfl⟩
  have unused : ∀ id ∈ ["c", "d", "e"], ∀ x ∈ [refresh, login], id ∉ x.event.freshIds := by
    intro id hid x hx
    rcases List.mem_cons.1 hx with rfl | hx
    · rw [refreshEvent]
      exact (by decide : ∀ id ∈ ["c", "d", "e"], id ∉ ["b"]) id hid
    · obtain rfl := List.mem_singleton.1 hx
      rw [loginEvent]
      exact (by decide : ∀ id ∈ ["c", "d", "e"], id ∉ ["a", "r", "p"]) id hid
  have returns : Pool.Admits smallService (smallStore none) ⟨smallStore none, [refresh, login]⟩
      (.login aliceSwitch alicePassword (some ⟨a, .session⟩)) := by
    refine .login rfl (by decide) (by decide) (fun _ _ => rfl) unused ?_
    rintro p ⟨⟩
    exact ⟨granted, rfl⟩
  obtain ⟨asked, roles', newText, -, switched, newSigned, -⟩ :=
    Reached.login_of_password reached smallService_canIssue returns rfl rfl
      (smallStore_loginUser? none) (alice_passwordMatches none) rfl
  have active : (smallService.storeAfterCurrent (smallStore none)
      (some ⟨a, .session⟩)).activeUser? traded.subject = some (alice none) := by
    rw [subject, Service.storeAfterCurrent_eq]
    exact smallStore_activeUser? none
  exact ⟨_, refresh, login, _, a, traded, roles', newText, switched, active, rfl, rfl, rfl, rfl,
    newSigned, by rw [refreshEvent]; rfl, refreshRest, tradedId, by rw [loginEvent]; rfl, _,
    loginRest⟩

/-! ## What the ledger rejects -/

/-- Which tokens the ledger rejects, however logins, refreshes and logouts were interleaved.  As
soon as all sessions that have begun to end have ended, these are the families of the sessions that
ended and nothing else.  At any time, a token of no such family is not rejected, and the tokens of a
new session are not in the family of the session that its login ends. -/
theorem rejected_iff_family_ended (reached : Reached s m pool) (issued : pool.Issued s t) :
    (pool.Settled s →
      (((Ledger.isRejected t).runOn pool.memory).1 = .ok true ↔
        ∃ x ∈ pool.threads, ∃ p, x.Ends p ∧ InFamily p t)) ∧
    ((∀ x ∈ pool.threads, ∀ p, x.Ends p → ¬InFamily p t) →
      ((Ledger.isRejected t).runOn pool.memory).1 = .ok false) ∧
    (∀ x ∈ pool.threads, ∀ p text now, x.event.ended? = some p → x.Issued s text →
      Token.verify s.config.key now text = .ok t → ¬InFamily p t) := by
  have sound := reached.sound
  rw [Ledger.runOn_isRejected]
  refine ⟨?_, ?_, ?_⟩
  · intro settled
    constructor
    · intro rejected
      exact sound.family_of_rejected issued (Except.ok.inj rejected)
    · rintro ⟨x, hx, p, ends, family⟩
      exact congrArg Except.ok (sound.rejected_of_family settled hx ends family)
  · intro others
    refine congrArg Except.ok (Bool.eq_false_iff.2 ?_)
    intro rejected
    obtain ⟨x, hx, p, ends, family⟩ := sound.family_of_rejected issued rejected
    exact others x hx p ends family
  · intro x hx p text now event handed verified
    exact reached.not_inFamily hx event (sound.origin_of_issued hx handed verified)

/-- Alice's refresh has asked the ledger when she logs in again, and goes on after that.  The access
token that it hands out is rejected, that of her new session is not. -/
theorem aliceSwitch_race :
    ∃ pool a b c, Reached smallService (smallStore none) pool ∧ pool.Issued smallService b ∧
      pool.Issued smallService c ∧ pool.Settled smallService ∧
      (∃ x ∈ pool.threads, x.Ends a) ∧ a.id = "a" ∧ b.id = "b" ∧ c.id = "c" ∧
      ((Ledger.isRejected b).runOn pool.memory).1 = .ok true ∧
      ((Ledger.isRejected c).runOn pool.memory).1 = .ok false := by
  obtain ⟨returning, refresh, login, memory, a, traded, roles, text, waits, active, ended, aId,
    aParent, returningRest, signed, keeps, refreshRest, tradedId, loginKeeps, handout, loginRest⟩ :=
      aliceSwitch_served
  -- The refresh goes on.
  obtain ⟨asked, roles', lateText, finished, lateSigned⟩ :=
    waits.traded smallService_canIssue refreshRest active
  rw [tradedId] at lateSigned
  let late : Thread := ⟨refresh.toMoment, asked, .done ⟨some lateText, none⟩⟩
  let pool : Pool := ⟨memory, [returning, late, login]⟩
  have reached : Reached smallService (smallStore none) pool := finished
  have returning_mem : returning ∈ pool.threads := List.mem_cons_self
  have late_mem : late ∈ pool.threads := List.mem_cons_of_mem _ List.mem_cons_self
  have settled : pool.Settled smallService := by
    refine reached.sound.settled ?_
    simp [pool, late, returningRest, loginRest]
  have ends : returning.Ends a := reached.sound.ends_of_done returning_mem returningRest ended
  have lateIssued := Pool.Knows.issued_of_newClaims ⟨late, late_mem, .access rfl rfl⟩ (by decide)
    (by decide) lateSigned
  have issued := Pool.Knows.issued_of_newClaims
    ⟨returning, returning_mem, .access returningRest rfl⟩ (by decide) (by decide) signed
  refine ⟨pool, a, _, _, reached, lateIssued, issued, settled, ⟨returning, returning_mem, ends⟩,
    aId, rfl, rfl, ?_, ?_⟩
  · refine ((rejected_iff_family_ended reached lateIssued).1 settled).2
      ⟨returning, returning_mem, a, ends, ?_⟩
    exact .inr (.inr ⟨rfl, "r", aParent, rfl⟩)
  · obtain ⟨-, kept, apart⟩ := rejected_iff_family_ended reached issued
    have verified := Token.verify_newClaims (t := 1055) (by decide) (by decide) signed (by decide)
      (by rw [smallService_grantedTtl]; decide)
    refine kept ?_
    intro x hx p other
    rcases List.mem_cons.1 hx with rfl | hx
    · exact apart x returning_mem p text 1055 other.1 (.access returningRest rfl) verified
    · rcases List.mem_cons.1 hx with rfl | hx
      · cases keeps.symm.trans other.1
      · obtain rfl := List.mem_singleton.1 hx
        cases loginKeeps.symm.trans other.1

end Gatehouse.Access
