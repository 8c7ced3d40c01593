import Gatehouse.Proofs.Access.Run

/-!
# Revocation - Sessions that ended

A session that ended leaves two rows in the ledger.  The row of the access token is dated at its
expiry.  The row of the refresh token behind it is dated at the longest lifetime that a refresh
token can have, counted from the issue of the access token, which is no earlier than that of the
refresh token.  A cleanup drops a row only when its date lies in the past, and by then the token has
expired.

Other access tokens that are derived from the same refresh token have no row of their own.  They are
rejected for the row of the refresh token, and one that outlives that row is accepted again once a
cleanup has dropped it.

Main definitions:

- `World.KeepsUntil` and `Recorded`: the rows that are in the ledger for as long as they count.
- `LastEnded`: the last session from a refresh token that ended.

Main results:

- Theorem `World.keepsUntil_step`: what a row has to fear of an event.
- Theorem `Reachable.recorded`: every session that ended has its rows for as long as they count.
- Theorem `ended_session_stays_ended`: neither the access token nor the refresh token of a session
  that ended is ever accepted again.
- Theorem `Reachable.find?_parent`: the row of the refresh token behind the last session that ended.
- Theorem `sibling_stays_rejected` and theorem `sibling_accepted_iff`: when other access tokens from
  the same refresh token are rejected for good, and when one is accepted again.
-/

namespace Gatehouse.Access

open Http (Headers)
open Store (Memory)
open Token (Claims Time)

variable {s : Service} {w : World} {e : Event} {name : String} {t : Time}

/-! ## Rows in a run -/

/-- A name has a row that is dated no earlier than `t`, unless `t` lies in the past. -/
def World.KeepsUntil (w : World) (name : String) (t : Time) : Prop :=
  w.memory.KeepsUntil name t ∨ t < w.clock

/-- A row stays unless the session that ends puts an earlier date in its place. -/
theorem World.keepsUntil_step (h : w.KeepsUntil name t) (later : w.clock ≤ e.time)
    (own : ∀ claims, e.ended? = some claims → name = claims.id → t ≤ claims.expiresAt)
    (parent : ∀ claims, e.ended? = some claims → claims.parent? = some name →
      t ≤ Token.expiry claims.issuedAt s.config.longestRefreshTtl) :
    (w.step s e).KeepsUntil name t := by
  rcases h with ⟨row, found, dated⟩ | h
  · cases ended : e.ended? with
    | some claims =>
        left
        unfold Memory.KeepsUntil World.step
        rw [Event.find?_after, ended]
        exact Memory.keepsUntil_withEnded ⟨row, found, dated⟩ (own claims ended)
          (parent claims ended)
    | none =>
        cases dropped : e.drops row.expiresAt with
        | true =>
            obtain ⟨now, rfl, past⟩ := Event.drops_iff.1 dropped
            exact .inr (Int.lt_of_le_of_lt dated past)
        | false =>
            refine .inl ⟨row, ?_, dated⟩
            rw [World.step, Event.find?_after, ended, found]
            simp [Option.filter, dropped]
  · exact .inr (Int.lt_of_lt_of_le h later)

/-- An event that ends no session of a name leaves its row alone, unless it drops it. -/
theorem World.find?_step_of_other
    (other : ∀ claims, e.ended? = some claims → name ≠ claims.id ∧ claims.parent? ≠ some name) :
    (w.step s e).memory.rejections.find? name =
      (w.memory.rejections.find? name).filter fun row => !e.drops row.expiresAt := by
  rw [World.step, Event.find?_after]
  cases ended : e.ended? with
  | some claims =>
      obtain ⟨own, derived⟩ := other claims ended
      have kept : ∀ date, e.drops date = false := by
        intro date
        cases e <;> first | rfl | cases ended
      simp only [kept]
      rw [Memory.find?_withEnded, if_neg derived, if_neg own]
      cases w.memory.rejections.find? name <;> rfl
  | none => rfl

/-- Every session that ended has its rows for as long as they count: the row of the access token
until it expires, and that of the refresh token until any refresh token from the same login has
expired. -/
structure Recorded (s : Service) (w : World) : Prop where
  own : ∀ x ∈ w.history, ∀ claims, x.event.ended? = some claims →
    w.KeepsUntil claims.id claims.expiresAt
  parent : ∀ x ∈ w.history, ∀ claims, x.event.ended? = some claims →
    ∀ parent, claims.parent? = some parent →
      ∀ y ∈ w.history, y.event.refreshId? = some parent →
        w.KeepsUntil parent (Token.expiry y.event.time s.config.longestRefreshTtl)

/-- The parent of an access token is not the token itself. -/
theorem Tidy.parent?_ne_id (tidy : Tidy s w) {claims claims' : Claims}
    (h : w.Granted s claims) (h' : w.Granted s claims') : claims.parent? ≠ some claims'.id := by
  intro hparent
  obtain ⟨y, hy, hrefresh, -⟩ := tidy.descends claims h _ hparent
  exact tidy.refreshId?_ne_of_granted h' hy hrefresh

/-- A row of an access token is not put in danger by another session that ends. -/
theorem Orderly.keepsUntil_id (admitted : Orderly s w e) (tidy : Tidy s w) {claims : Claims}
    (granted : w.Granted s claims) (h : w.KeepsUntil claims.id claims.expiresAt) :
    (w.step s e).KeepsUntil claims.id claims.expiresAt := by
  refine World.keepsUntil_step h admitted.later (fun claims' ended same => ?_)
    (fun claims' ended hparent => ?_)
  · have one := tidy.granted_inj granted (admitted.principal claims' ended) same
    exact Int.le_of_eq (congrArg (·.expiresAt) one)
  · exact absurd hparent (tidy.parent?_ne_id (admitted.principal claims' ended) granted)

/-- A row of a refresh token is not put in danger by another session that ends: the later one was
issued no earlier than the refresh token. -/
theorem Orderly.keepsUntil_parent (admitted : Orderly s w e) (tidy : Tidy s w) {y : Moment}
    (hy : y ∈ w.history) {parent : String} (hrefresh : y.event.refreshId? = some parent)
    (h : w.KeepsUntil parent (Token.expiry y.event.time s.config.longestRefreshTtl)) :
    (w.step s e).KeepsUntil parent
      (Token.expiry y.event.time s.config.longestRefreshTtl) := by
  refine World.keepsUntil_step h admitted.later (fun claims' ended same => ?_)
    (fun claims' ended hparent => ?_)
  · subst same
    exact absurd hrefresh (tidy.refreshId?_ne_of_granted (admitted.principal claims' ended) hy)
  · obtain ⟨y', hy', hrefresh', dated⟩ :=
      tidy.descends claims' (admitted.principal claims' ended) parent hparent
    obtain rfl := tidy.own y hy y' hy' parent (Event.mem_freshIds_of_refreshId? hrefresh)
      (Event.mem_freshIds_of_refreshId? hrefresh')
    exact Token.expiry_le_expiry dated (Nat.le_refl _)

/-- The rows of a session that ends now. -/
theorem Orderly.recorded_now (admitted : Orderly s w e) (tidy : Tidy s w) {claims : Claims}
    (ended : e.ended? = some claims) :
    (w.step s e).KeepsUntil claims.id claims.expiresAt ∧
      ∀ parent, claims.parent? = some parent →
        ∀ y ∈ w.history, y.event.refreshId? = some parent →
          (w.step s e).KeepsUntil parent
            (Token.expiry y.event.time s.config.longestRefreshTtl) := by
  have granted := admitted.principal claims ended
  constructor
  · left
    obtain ⟨row, found, dated⟩ := Memory.keepsUntil_id_withEnded (m := w.memory) (c := s.config)
      (tidy.parent?_ne_id granted granted)
    exact ⟨row, by rw [World.step, Event.find?_after, ended]; exact found, dated⟩
  · intro parent hparent y hy hrefresh
    left
    obtain ⟨row, found, dated⟩ :=
      Memory.keepsUntil_parent_withEnded (m := w.memory) (c := s.config) hparent
    refine ⟨row, by rw [World.step, Event.find?_after, ended]; exact found, Int.le_trans ?_ dated⟩
    obtain ⟨y', hy', hrefresh', later⟩ := tidy.descends claims granted parent hparent
    obtain rfl := tidy.own y hy y' hy' parent (Event.mem_freshIds_of_refreshId? hrefresh)
      (Event.mem_freshIds_of_refreshId? hrefresh')
    exact Token.expiry_le_expiry later (Nat.le_refl _)

/-- A refresh token that a session goes back to was not handed out by a new event. -/
theorem Orderly.mem_of_refreshId? (admitted : Orderly s w e) (tidy : Tidy s w) {claims : Claims}
    (granted : w.Granted s claims) {parent : String} (hparent : claims.parent? = some parent)
    {y : Moment} (hy : y ∈ (w.step s e).history) (hrefresh : y.event.refreshId? = some parent) :
    y ∈ w.history := by
  rcases List.mem_cons.1 hy with rfl | hy
  · obtain ⟨y', hy', hrefresh', -⟩ := tidy.descends claims granted parent hparent
    exact absurd (Event.mem_freshIds_of_refreshId? hrefresh')
      (admitted.unused parent (Event.mem_freshIds_of_refreshId? hrefresh) y' hy')
  · exact hy

/-- An event that is admitted keeps the rows that count. -/
theorem Recorded.step (recorded : Recorded s w) (tidy : Tidy s w) (admitted : Orderly s w e) :
    Recorded s (w.step s e) where
  own x hx claims ended := by
    rcases List.mem_cons.1 hx with rfl | hx
    · exact (admitted.recorded_now tidy ended).1
    · exact admitted.keepsUntil_id tidy (tidy.principal x hx claims ended)
        (recorded.own x hx claims ended)
  parent x hx claims ended parent hparent y hy hrefresh := by
    rcases List.mem_cons.1 hx with rfl | hx
    · have granted := admitted.principal claims ended
      have hy := admitted.mem_of_refreshId? tidy granted hparent hy hrefresh
      exact (admitted.recorded_now tidy ended).2 parent hparent y hy hrefresh
    · have granted := tidy.principal x hx claims ended
      have hy := admitted.mem_of_refreshId? tidy granted hparent hy hrefresh
      exact admitted.keepsUntil_parent tidy hy hrefresh
        (recorded.parent x hx claims ended parent hparent y hy hrefresh)

/-- In every world of an orderly run, the sessions that ended have their rows. -/
theorem Reachable.recorded (h : Reachable s (Orderly s) w) : Recorded s w := by
  induction h with
  | start m clock =>
      have none : ∀ x : Moment, x ∉ (⟨m, clock, []⟩ : World).history := fun _ => List.not_mem_nil
      exact {
        own := fun x hx => absurd hx (none x)
        parent := fun x hx => absurd hx (none x) }
  | step before admitted ih => exact ih.step before.tidy admitted

/-! ## Sessions that ended -/

/-- A row that counts is in the ledger. -/
theorem World.contains_of_keepsUntil (h : w.KeepsUntil name t) (due : w.clock ≤ t) :
    w.memory.rejections.contains name = true := by
  rcases h with h | h
  · exact Memory.contains_of_keepsUntil h
  · exact absurd (Int.lt_of_lt_of_le h due) (Int.lt_irrefl t)

/-- The access token of a session that ended is never accepted again. -/
theorem Reachable.accepted_ne_ended (h : Reachable s (Orderly s) w) {x : Moment}
    (hx : x ∈ w.history) {claims : Claims} (ended : x.event.ended? = some claims) {now : Time}
    {text : String} {p : Principal} (later : w.clock ≤ now) (genuine : w.Genuine s text)
    (accepted : ((s.authenticate now (.signed text)).runOn w.memory).1 = .ok p) :
    p.claims.id ≠ claims.id := by
  intro same
  obtain ⟨claims', verified, scope, kept, rfl⟩ := Service.authenticateSigned_ok accepted
  obtain rfl : claims' = claims :=
    h.tidy.granted_inj ⟨text, now, genuine now claims' verified, verified, scope⟩
      (h.tidy.principal x hx claims ended) same
  have alive := (Token.checkWindow_eq_ok.1 (Token.checkWindow_of_verify verified)).2.1
  have row := World.contains_of_keepsUntil (h.recorded.own x hx claims' ended)
    (Int.le_trans later alive)
  simp [Memory.rejects, row] at kept

/-- The refresh token behind a session that ended is never traded again. -/
theorem Reachable.traded_ne_parent (h : Reachable s (Orderly s) w) {x : Moment}
    (hx : x ∈ w.history) {claims : Claims} (ended : x.event.ended? = some claims) {o : Occasion}
    {headers out : Headers} {requestedTtl : Nat} {redirect : Option String} {text : String}
    {traded : Claims} {session : Session} (later : w.clock ≤ o.now)
    (given : Http.Cookie.find? headers s.config.refreshCookie = some text)
    (genuine : w.Genuine s text) (verified : Token.verify s.config.key o.now text = .ok traded)
    (accepted : ((s.refresh o headers requestedTtl redirect).runOn out w.memory).1 = .ok session) :
    claims.parent? ≠ some traded.id := by
  intro hparent
  obtain ⟨text', traded', user, roles, kind, given', verified', scope, kept, -, -⟩ :=
    Service.refresh_ok (Prod.ext accepted rfl)
  obtain rfl : text = text' := Option.some.inj (given.symm.trans given')
  obtain rfl : traded = traded' := Except.ok.inj (verified.symm.trans verified')
  obtain ⟨y, hy, issued⟩ := genuine o.now traded verified
  have origin := issued.origin (h.tidy.time y hy) verified
  have alive := (Token.checkWindow_eq_ok.1 (Token.checkWindow_of_verify verified)).2.1
  have due := Int.le_trans later (Int.le_trans alive (origin.expiresAt_le scope))
  have row := World.contains_of_keepsUntil
    (h.recorded.parent x hx claims ended traded.id hparent y hy (origin.refreshId?_eq scope)) due
  simp [Memory.rejects, row] at kept

/-- A session that ended stays ended: whatever text passes for a token of the service, its access
token is never accepted again and the refresh token behind it is never traded again. -/
theorem ended_session_stays_ended (h : Reachable s (Orderly s) w) {x : Moment}
    (hx : x ∈ w.history) {claims : Claims} (ended : x.event.ended? = some claims) :
    (∀ now text p, w.clock ≤ now → w.Genuine s text →
      ((s.authenticate now (.signed text)).runOn w.memory).1 = .ok p →
      p.claims.id ≠ claims.id) ∧
    (∀ o headers requestedTtl redirect out text traded session, w.clock ≤ o.now →
      Http.Cookie.find? headers s.config.refreshCookie = some text → w.Genuine s text →
      Token.verify s.config.key o.now text = .ok traded →
      ((s.refresh o headers requestedTtl redirect).runOn out w.memory).1 = .ok session →
      claims.parent? ≠ some traded.id) := by
  constructor
  · intro now text p later genuine accepted
    exact h.accepted_ne_ended hx ended later genuine accepted
  · intro o headers requestedTtl redirect out text traded session later given genuine verified
      accepted
    exact h.traded_ne_parent hx ended later given genuine verified accepted

/-- Alice logs in, logs out, and neither her access token nor her refresh token is accepted
again. -/
theorem aliceLogout_stays_ended :
    ∃ w x claims, Reachable smallService (Orderly smallService) w ∧ x ∈ w.history ∧
      x.event.ended? = some claims ∧ claims.id = "a" ∧ claims.parent? = some "r" ∧
      (∀ now text p, w.clock ≤ now → w.Genuine smallService text →
        ((smallService.authenticate now (.signed text)).runOn w.memory).1 = .ok p →
        p.claims.id ≠ "a") ∧
      (∀ o headers text traded session, w.clock ≤ o.now →
        Http.Cookie.find? headers smallService.config.refreshCookie = some text →
        w.Genuine smallService text →
        Token.verify smallService.config.key o.now text = .ok traded →
        ((smallService.refresh o headers 0 none).runOn .empty w.memory).1 = .ok session →
        traded.id ≠ "r") := by
  obtain ⟨-, roles, text, refreshText, signed, -, known, -⟩ := loggedIn_issued
  have granted := known.granted_of_newClaims (by decide) (by decide) rfl signed
  have reachable := loggedIn_reachable.step
    (Orderly.logout 1010 (by decide) (by decide) granted)
  obtain ⟨access, refresh⟩ := ended_session_stays_ended reachable List.mem_cons_self rfl
  refine ⟨_, _, _, reachable, List.mem_cons_self, rfl, rfl, rfl, access, ?_⟩
  intro o headers text traded session later given genuine verified accepted same
  exact refresh o headers 0 none .empty text traded session later given genuine verified accepted
    (congrArg some same.symm)

/-! ## Siblings of a session that ended -/

/-- The date of the row that a session puts in for the refresh token behind it. -/
def parentDate (s : Service) (claims : Claims) : Time :=
  Token.expiry claims.issuedAt s.config.longestRefreshTtl

/-- The session with the given claims was the last one from the refresh token `parent` that ended;
`later` is what happened since, the latest first. -/
structure LastEnded (w : World) (parent : String) (claims : Claims) (later : List Moment) : Prop
    where
  split : ∃ x earlier, w.history = later ++ x :: earlier ∧ x.event.ended? = some claims
  derived : claims.parent? = some parent
  last : ∀ y ∈ later, ∀ other, y.event.ended? = some other → other.parent? ≠ some parent

variable {parent : String} {claims sibling : Claims} {later : List Moment}

/-- The row of the refresh token is the one that the last session put in, until a cleanup drops
it. -/
theorem Reachable.find?_parent (h : Reachable s (Orderly s) w)
    (last : LastEnded w parent claims later) :
    w.memory.rejections.find? parent =
      if later.any (·.event.drops (parentDate s claims)) then none
      else some (Ledger.parentRow s.config.longestRefreshTtl claims parent) := by
  induction h generalizing later with
  | start m clock =>
      obtain ⟨x, earlier, history, -⟩ := last.split
      have empty : later ++ x :: earlier ≠ [] := by simp
      exact absurd history.symm empty
  | @step w e before admitted ih =>
      obtain ⟨x, earlier, history, ended⟩ := last.split
      cases later with
      | nil =>
          obtain ⟨rfl, -⟩ := List.cons.inj history
          rw [World.step, Event.find?_after, ended]
          simp only
          rw [Memory.find?_withEnded, if_pos last.derived]
          rfl
      | cons y later =>
          obtain ⟨rfl, rest⟩ := List.cons.inj history
          have previous := ih
            ⟨⟨x, earlier, rest, ended⟩, last.derived, fun y hy =>
              last.last y (List.mem_cons_of_mem _ hy)⟩
          -- No session that ends now is one of the refresh token, and it is no access token itself.
          have hx : x ∈ w.history := rest ▸ List.mem_append_right _ List.mem_cons_self
          have granted := before.tidy.principal x hx claims ended
          have kept := World.find?_step_of_other (s := s) (w := w)
            fun claims' ended' => ⟨fun own =>
              before.tidy.parent?_ne_id granted (admitted.principal claims' ended')
                (own ▸ last.derived), last.last _ List.mem_cons_self claims' ended'⟩
          rw [kept, previous, List.any_cons]
          cases later.any (·.event.drops (parentDate s claims)) with
          | true => simp
          | false =>
              have dated : (Ledger.parentRow s.config.longestRefreshTtl claims parent).expiresAt =
                  parentDate s claims := rfl
              cases dropped : e.drops (parentDate s claims) with
              | true => simp [Option.filter, dated, dropped]
              | false => simp [Option.filter, dated, dropped]

/-- A sibling is rejected for a row of its own or for the row of the refresh token, as long as that
is there. -/
theorem Reachable.rejects_sibling (h : Reachable s (Orderly s) w)
    (last : LastEnded w parent claims later) (derived : sibling.parent? = some parent) :
    w.memory.rejects sibling = (w.memory.rejections.contains sibling.id ||
      !later.any (·.event.drops (parentDate s claims))) := by
  have row := w.memory.rejections.contains_eq_isSome parent
  rw [h.find?_parent last] at row
  rw [Memory.rejects, derived, Option.any_some, row]
  cases later.any (·.event.drops (parentDate s claims)) <;> rfl

/-- A sibling that does not outlive the row of the refresh token is never accepted again. -/
theorem sibling_stays_rejected (h : Reachable s (Orderly s) w)
    (last : LastEnded w parent claims later) (derived : sibling.parent? = some parent)
    (short : sibling.expiresAt ≤ parentDate s claims) {now : Time} (due : w.clock ≤ now)
    {text : String} (verified : Token.verify s.config.key now text = .ok sibling) (p : Principal) :
    ((s.authenticate now (.signed text)).runOn w.memory).1 ≠ .ok p := by
  intro accepted
  obtain ⟨claims', verified', -, kept, -⟩ := Service.authenticateSigned_ok accepted
  obtain rfl : sibling = claims' := Except.ok.inj (verified.symm.trans verified')
  rw [h.rejects_sibling last derived, Bool.or_eq_false_iff] at kept
  obtain ⟨y, hy, dropped⟩ := List.any_eq_true.1 (by simpa using kept.2)
  obtain ⟨cleaned, event, past⟩ := Event.drops_iff.1 dropped
  obtain ⟨x, earlier, history, -⟩ := last.split
  have cleanedBefore := h.tidy.past y (history ▸ List.mem_append_left _ hy)
  rw [event] at cleanedBefore
  have alive := (Token.checkWindow_eq_ok.1 (Token.checkWindow_of_verify verified)).2.1
  exact Int.lt_irrefl _ (Int.lt_of_lt_of_le past (Int.le_trans cleanedBefore
    (Int.le_trans due (Int.le_trans alive short))))

/-- When a sibling of the last session that ended is accepted: within its time window, without a row
of its own, and once a cleanup has run after the date of the row of the refresh token.  That date
counts from the issue of the access token whose session ended, and the sibling may outlive it. -/
theorem sibling_accepted_iff (h : Reachable s (Orderly s) w)
    (last : LastEnded w parent claims later) (derived : sibling.parent? = some parent)
    {text : String} {before : Time} (known : w.Knows s text)
    (verified : Token.verify s.config.key before text = .ok sibling)
    (scope : sibling.hasScope .access = true) (now : Time) :
    (∃ p, ((s.authenticate now (.signed text)).runOn w.memory).1 = .ok p) ↔
      Token.checkWindow now sibling = .ok () ∧
      w.memory.rejections.contains sibling.id = false ∧
      ∃ y ∈ later, ∃ cleaned, y.event = .cleanup cleaned ∧
        Token.expiry claims.issuedAt s.config.longestRefreshTtl < cleaned := by
  have rejects := h.rejects_sibling last derived
  have dropped : later.any (·.event.drops (parentDate s claims)) = true ↔
      ∃ y ∈ later, ∃ cleaned, y.event = .cleanup cleaned ∧
        Token.expiry claims.issuedAt s.config.longestRefreshTtl < cleaned := by
    rw [List.any_eq_true]
    exact exists_congr fun y => and_congr_right fun _ => Event.drops_iff
  rw [← dropped]
  have accepts := Service.runOn_authenticateSigned (m := w.memory) s now text
  rw [h.tidy.verify_known known verified now] at accepts
  show (∃ p, ((s.authenticateSigned now text).runOn w.memory).1 = .ok p) ↔ _
  rw [accepts]
  cases Token.checkWindow now sibling with
  | error e => simp [Except.map]
  | ok u =>
      simp only [Except.map, scope, rejects]
      cases w.memory.rejections.contains sibling.id <;>
        cases later.any (·.event.drops (parentDate s claims)) <;> simp

/-- A session that has just ended is the last one, also after a cleanup. -/
theorem lastEnded_logout_cleanup (s : Service) (w : World) (claims : Claims) (now cleaned : Time)
    (derived : claims.parent? = some parent) :
    LastEnded ((w.step s (.logout now ⟨claims, .session⟩)).step s (.cleanup cleaned)) parent claims
      [⟨(w.step s (.logout now ⟨claims, .session⟩)).memory, .cleanup cleaned⟩] where
  split := ⟨_, _, rfl, rfl⟩
  derived := derived
  last y hy other h := by
    obtain rfl := List.mem_singleton.1 hy
    cases h

/-- A logout and a cleanup add no row under the name of another token. -/
theorem find?_logout_cleanup (s : Service) (w : World) (claims : Claims) (now cleaned : Time)
    (absent : w.memory.rejections.find? name = none) (notOwn : name ≠ claims.id)
    (notParent : claims.parent? ≠ some name) :
    ((w.step s (.logout now ⟨claims, .session⟩)).step s (.cleanup cleaned)).memory.rejections.find?
      name = none := by
  have ended : (w.step s (.logout now ⟨claims, .session⟩)).memory.rejections.find? name = none := by
    rw [World.find?_step_of_other, absent]
    · rfl
    · intro other h
      cases h
      exact ⟨notOwn, notParent⟩
  rw [World.find?_step_of_other, ended]
  · rfl
  · intro other h
    cases h

/-- When Alice refreshes, and the id of her new access token. -/
def aliceTrading : Occasion :=
  ⟨1054, "b", "", "", "", []⟩

/-- Alice trades her refresh token. -/
def aliceRefresh (token : String) : Event :=
  .refresh aliceTrading ⟨[("cookie", utf8 (smallService.config.refreshCookie ++ "=" ++ token))]⟩ 0
    none

/-- Alice logs in, refreshes and logs out with her first token.  The row of the refresh token is
dated at 1100, a cleanup drops it at 1105, and her second token is accepted again at 1106. -/
theorem aliceSibling_accepted :
    ∃ w claims sibling text later p, Reachable smallService (Orderly smallService) w ∧
      LastEnded w "r" claims later ∧ sibling.parent? = some "r" ∧ w.Knows smallService text ∧
      Token.verify smallService.config.key 1054 text = .ok sibling ∧ w.clock ≤ 1106 ∧
      ((smallService.authenticate 1106 (.signed text)).runOn w.memory).1 = .ok p := by
  obtain ⟨memory, roles, text, refreshText, signed, signedRefresh, known, knownRefresh⟩ :=
    loggedIn_issued
  have granted := known.granted_of_newClaims (by decide) (by decide) rfl signed
  -- Alice trades her refresh token shortly before it expires.
  have verified := Token.verify_newClaims (t := 1054) (by decide) (by decide) signedRefresh
    (by decide) (by rw [smallService_refreshTtl]; decide)
  have cookie : Http.IsPairText smallService.config.refreshCookie := by decide
  obtain ⟨plain, nonempty⟩ := Token.isPairText_of_sign signedRefresh
  have given := Http.Cookie.find?_of_pair cookie plain nonempty
  obtain ⟨memory₁, roles', text', signed', known'⟩ := World.step_refresh_of_verified (w := loggedIn)
    (o := aliceTrading) smallService_canIssue 0 none given verified rfl (by rw [memory]; rfl)
    (by rw [memory]; exact smallStore_activeUser? none)
  have verified' := Token.verify_newClaims (t := 1054) (by decide) (by decide) signed' (by decide)
    (by rw [smallService_grantedTtl]; decide)
  have unused : ∀ x ∈ loggedIn.history, aliceTrading.accessId ∉ x.event.freshIds := by
    intro x hx
    obtain rfl := List.mem_singleton.1 hx
    decide
  -- She logs out with her first token, and the row of the refresh token is dropped.
  have reachable := ((loggedIn_reachable.step
    (Orderly.refresh (by decide) (by decide) unused given knownRefresh 0 none)).step
    (Orderly.logout 1055 (by decide) (Int.le.intro 1 rfl) granted.step)).step
    (Orderly.cleanup (t := 1105) (by decide) (Int.le.intro 50 rfl))
  let claims := Token.accessClaims smallService.config 1000 "a" (alice none) roles 0 (some "r")
    .password
  have last := lastEnded_logout_cleanup smallService (loggedIn.step smallService
    (aliceRefresh refreshText)) claims 1055 1105 rfl
  have past : Token.expiry 1000 smallService.config.longestRefreshTtl < 1105 := by decide
  -- Her second token is within its window and has no row of its own.
  have window := (Token.checkWindow_newClaims (by decide : (0 : Int) ≤ 1054) smallService.config "b"
    (alice none) .access 60
    ⟨Token.currentVersion, some "r", some ⟨roles'.map (·.id)⟩, some .password⟩ 1106).2
    (by decide)
  have noRow := find?_logout_cleanup smallService (loggedIn.step smallService
    (aliceRefresh refreshText)) claims 1055 1105 (by rw [aliceRefresh, memory₁, memory]; rfl)
    (show "b" ≠ "a" by decide) (show some "r" ≠ some "b" by decide)
  obtain ⟨p, accepted⟩ := (sibling_accepted_iff reachable last rfl known'.step.step verified' rfl
    1106).2 ⟨window, by
      rw [Register.contains_eq_isSome]
      exact congrArg Option.isSome noRow, _, List.mem_singleton_self _, 1105, rfl, past⟩
  exact ⟨_, _, _, _, _, p, reachable, last, rfl, known'.step.step, verified', Int.le.intro 1 rfl,
    accepted⟩

end Gatehouse.Access
