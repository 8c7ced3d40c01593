import Gatehouse.Proofs.Access.Requests
import Gatehouse.Proofs.Access.Run

/-!
# Requests that are served at the same time

Any number of logins, refreshes and logouts are served at the same time against one store in memory.
Each of them is a thread that asks one query after the other; between two queries of a thread all
others can go on.  Nothing is locked, so a refresh may have looked into the ledger before a logout
writes its rows and issue its token after that.

Main definitions:

- `Event.program?` and `Handout`: a request as a program, and the texts that its client gets.
- `Thread`, `Pool` and `Step`: requests that are being served.
- `Reached`: the pools that come about in any order of steps.

Main results:

- Theorem `Event.program_ends`: what a request writes and hands out, whatever happens meanwhile.
- Theorem `Reached.sound`: what holds in every pool.
-/

namespace Gatehouse.Store.Memory

variable {m : Memory}

/-- Only the row that is written changes what names are in the ledger, unless rows are dropped. -/
theorem contains_answer_iff {q : Query} (kept : ∀ t, q ≠ .dropRejections t) (name : String) :
    (m.answer q).2.rejections.contains name = true ↔
      m.rejections.contains name = true ∨ ∃ row, q = .reject row ∧ row.tokenId = name := by
  have same {m' : Memory} (h : m'.rejections = m.rejections) (other : ∀ row, q ≠ .reject row) :
      m'.rejections.contains name = true ↔
        m.rejections.contains name = true ∨ ∃ row, q = .reject row ∧ row.tokenId = name := by
    rw [h]
    refine ⟨.inl, fun h => ?_⟩
    rcases h with h | ⟨row, written, -⟩
    · exact h
    · exact absurd written (other row)
  cases q with
  | reject row =>
      show (m.rejections.put row).contains name = true ↔ _
      rw [Register.contains_eq_isSome, Register.contains_eq_isSome, Register.find?_put]
      by_cases named : name = row.tokenId
      · simp [named]
      · simp [named, Ne.symm named]
  | dropRejections t => exact absurd rfl (kept t)
  | takeRecoveryCode userId digest =>
      refine same ?_ fun _ other => by cases other
      show (m.takeRecoveryCode userId digest).2.rejections = m.rejections
      unfold takeRecoveryCode
      split <;> rfl
  | addApiToken token roleIds =>
      refine same ?_ fun _ other => by cases other
      show (m.addApiToken token roleIds).2.rejections = m.rejections
      unfold addApiToken
      split <;> rfl
  | removeApiToken tokenId userId =>
      refine same ?_ fun _ other => by cases other
      show (m.removeApiToken tokenId userId).2.rejections = m.rejections
      unfold removeApiToken
      split <;> rfl
  | _ => exact same rfl fun _ other => by cases other

end Gatehouse.Store.Memory

namespace Gatehouse.Access

open Http (Headers)
open Store (Action Memory Query Rejection Reply Role User)
open Token (Claims IsTime LoginKind)

variable {s : Service} {m : Memory}

/-! ## Requests as programs -/

/-- The signed texts that the client of a request gets, apart from refresh tokens. -/
structure Handout where
  access : Option String
  pending : Option String

/-- No texts. -/
def Handout.nothing : Handout := ⟨none, none⟩

/-- What is handed out with a session. -/
def Session.handout (session : Session) : Handout :=
  ⟨some session.accessToken.token, none⟩

/-- What is handed out after a step of a login. -/
def LoginOutcome.handout : LoginOutcome → Handout
  | .secondFactorRequired token => ⟨none, some token.token⟩
  | .established session => session.handout

/-- A flow up to what its client gets; failures hand out nothing. -/
def CookieFlow.program {α : Type} (handout : α → Handout) (x : CookieFlow α) : Action Handout :=
  (x.run.run .empty).bind fun r =>
    .done (match r.1 with
      | .ok a => handout a
      | .error _ => .nothing)

/-- The program of a login, a refresh or a logout. -/
def Event.program? (s : Service) : Event → Option (Action Handout)
  | .login o request current =>
    some ((s.login o request current).program LoginOutcome.handout)
  | .refresh o headers requestedTtl redirect =>
    some ((s.refresh o headers requestedTtl redirect).program Session.handout)
  | .logout _ p => some ((s.logout p).program fun _ => .nothing)
  | .cleanup _ | .administer .. => none

/-- The texts were signed in a request, each for its purpose. -/
structure Moment.Hands (s : Service) (x : Moment) (h : Handout) : Prop where
  access : ∀ text, h.access = some text → ∃ claims, x.Origin s claims ∧
    claims.hasScope .access = true ∧
    Token.sign s.config.algorithm s.config.key claims = .ok text
  pending : ∀ text, h.pending = some text → ∃ claims, x.Origin s claims ∧
    claims.hasScope .pending = true ∧
    Token.sign s.config.algorithm s.config.key claims = .ok text

theorem Moment.hands_nothing (x : Moment) : x.Hands s .nothing := ⟨nofun, nofun⟩

/-- What a flow writes and gives is what its program writes and hands out. -/
theorem CookieFlow.program_ends {α : Type} {x : CookieFlow α} {changes : List Query}
    {P : α → Prop} {R : Handout → Prop} {handout : α → Handout} (writes : x.Writes changes)
    (gives : x.Gives Memory.answer P) (handed : ∀ a, P a → R (handout a)) (failed : R .nothing) :
    (x.program handout).Ends Memory.answer fun asked h =>
      asked.filter Query.changesLedger = changes ∧ R h := by
  refine Action.Ends.bind ((writes.ends .empty).and (gives.ends .empty)) ?_
  rintro asked ⟨r, headers⟩ ⟨made, given⟩
  show (asked ++ []).filter Query.changesLedger = changes ∧ R _
  rw [List.append_nil]
  refine ⟨made, ?_⟩
  cases r with
  | ok a => exact handed a (given a rfl)
  | error e => exact failed

/-- Whatever happens meanwhile, a request changes the ledger just to end the session that it comes
with, and hands out what it has signed. -/
theorem Event.program_ends {e : Event} {program : Action Handout}
    (known : e.program? s = some program) (m : Memory) :
    program.Ends Memory.answer fun asked h =>
      asked.filter Query.changesLedger = s.endingChanges e.ended? ∧ Moment.Hands s ⟨m, e⟩ h := by
  cases e with
  | login o request current =>
      obtain rfl := Option.some.inj known
      refine CookieFlow.program_ends (Service.login_writes request current)
        (Service.login_gives request current) ?_ (Moment.hands_nothing _)
      intro outcome given
      cases given with
      | pending credential signed =>
          refine ⟨nofun, ?_⟩
          rintro text ⟨⟩
          exact ⟨_, .pending rfl, rfl, signed⟩
      | established admitted signed =>
          refine ⟨?_, nofun⟩
          rintro text ⟨⟩
          obtain ⟨roles, parent, begun, signed⟩ := signed
          exact ⟨_, .login rfl begun.derived, rfl, signed⟩
  | refresh o headers requestedTtl redirect =>
      obtain rfl := Option.some.inj known
      refine CookieFlow.program_ends (Service.refresh_writes headers requestedTtl redirect)
        (Service.refresh_gives headers requestedTtl redirect) ?_ (Moment.hands_nothing _)
      rintro session ⟨text, claims, user, roles, kind, given, verified, scope, signed⟩
      refine ⟨?_, nofun⟩
      rintro text' ⟨⟩
      exact ⟨_, .refresh rfl given verified scope, rfl, signed⟩
  | logout now p =>
      obtain rfl := Option.some.inj known
      exact CookieFlow.program_ends (Service.logout_writes p) (CookieFlow.gives_true _)
        (fun _ _ => Moment.hands_nothing _) (Moment.hands_nothing _)
  | cleanup now => cases known
  | administer now m' => cases known

/-! ## Threads and pools -/

/-- A request that is being served: what it has asked so far and how it goes on. -/
structure Thread extends Moment where
  asked : List Query
  rest : Action Handout

/-- The store and the requests that are being served or have been served, the latest first. -/
structure Pool where
  memory : Memory
  threads : List Thread

namespace Thread

/-- The thread after a query was answered. -/
def answered (x : Thread) (q : Query) (next : Reply q → Action Handout) (reply : Reply q) :
    Thread :=
  { x with asked := x.asked ++ [q], rest := next reply }

/-- A text that the client of the request may have.  A login that fails can have set the cookie of a
refresh token before it failed, so every refresh token that could be signed in a login counts. -/
inductive Issued (s : Service) (x : Thread) (text : String) : Prop where
  | access {h : Handout} (ended : x.rest = .done h) (handed : h.access = some text)
  | pending {h : Handout} (ended : x.rest = .done h) (handed : h.pending = some text)
  | refresh {o : Occasion} {request : LoginRequest} {current : Option Principal} {user : User}
      {roles : List Role} {kind : LoginKind} (login : x.event = .login o request current)
      (signed : Token.sign s.config.algorithm s.config.key
        (Token.refreshClaims s.config o.now o.refreshId user roles kind) = .ok text)

/-- The thread has begun to end the session of an access token: the row of the token is written. -/
def Ends (x : Thread) (p : Claims) : Prop :=
  x.event.ended? = some p ∧ .reject (Ledger.rowOf p) ∈ x.asked

end Thread

namespace Pool

/-- The text may have been handed out. -/
def Knows (s : Service) (pool : Pool) (text : String) : Prop :=
  ∃ x ∈ pool.threads, x.Issued s text

/-- The text passes for a token of the service only if the service handed it out. -/
def Genuine (s : Service) (pool : Pool) (text : String) : Prop :=
  ∀ now claims, Token.verify s.config.key now text = .ok claims → pool.Knows s text

/-- The claims of a token that was handed out. -/
def Issued (s : Service) (pool : Pool) (t : Claims) : Prop :=
  ∃ text now, pool.Knows s text ∧ Token.verify s.config.key now text = .ok t

/-- The request can be told from others, and the tokens that it comes with were issued here. -/
structure Accepts (s : Service) (m : Memory) (pool : Pool) (e : Event) : Prop where
  time : IsTime e.time
  once : e.freshIds.Nodup
  absent : ∀ id ∈ e.freshIds, m.rejections.contains id = false
  genuine : ∀ text, e.presented? s = some text → pool.Genuine s text
  principal : ∀ p, e.ended? = some p → pool.Issued s p ∧ p.hasScope .access = true

/-- A request can arrive when no other one has been given the ids of its new tokens.  Its principal
may have been found at any time before. -/
structure Admits (s : Service) (m : Memory) (pool : Pool) (e : Event) : Prop
    extends pool.Accepts s m e where
  unused : ∀ id ∈ e.freshIds, ∀ x ∈ pool.threads, id ∉ x.event.freshIds

/-- All sessions that have begun to end have ended. -/
def Settled (s : Service) (pool : Pool) : Prop :=
  ∀ x ∈ pool.threads, ∀ p, x.Ends p → ∀ q ∈ Ledger.endingQueries s.config p, q ∈ x.asked

end Pool

/-- A request arrives, or one of the threads asks its next query. -/
inductive Step (s : Service) (m : Memory) : Pool → Pool → Prop where
  | arrive {pool : Pool} {e : Event} {program : Action Handout}
      (known : e.program? s = some program) (admitted : pool.Admits s m e) :
      Step s m pool ⟨pool.memory, ⟨⟨pool.memory, e⟩, [], program⟩ :: pool.threads⟩
  | ask {memory : Memory} {before after : List Thread} {x : Thread} {q : Query}
      {next : Reply q → Action Handout} (waits : x.rest = .query q next) :
      Step s m ⟨memory, before ++ x :: after⟩
        ⟨(memory.answer q).2, before ++ x.answered q next (memory.answer q).1 :: after⟩

/-- The pools that come about from a store that is at rest. -/
inductive Reached (s : Service) (m : Memory) : Pool → Prop where
  | start : Reached s m ⟨m, []⟩
  | step {pool pool' : Pool} (before : Reached s m pool) (step : Step s m pool pool') :
      Reached s m pool'

/-! ## What holds in every pool -/

/-- What holds in every pool that comes about from the store `m`. -/
structure Sound (s : Service) (m : Memory) (pool : Pool) : Prop where
  accepted : ∀ x ∈ pool.threads, pool.Accepts s m x.event
  own : pool.threads.Pairwise fun x y => ∀ id ∈ x.event.freshIds, id ∉ y.event.freshIds
  goesOn : ∀ x ∈ pool.threads, x.rest.Ends Memory.answer fun asked h =>
    (x.asked ++ asked).filter Query.changesLedger = s.endingChanges x.event.ended? ∧
      x.toMoment.Hands s h
  ledger : ∀ name, pool.memory.rejections.contains name = true ↔
    m.rejections.contains name = true ∨
      ∃ x ∈ pool.threads, ∃ row, .reject row ∈ x.asked ∧ row.tokenId = name

section Steps

variable {pool pool' : Pool} {memory : Memory} {before after : List Thread} {x : Thread}
  {q : Query} {next : Reply q → Action Handout}

/-- A thread that waits has handed out nothing but perhaps the cookie of a refresh token. -/
theorem Thread.Issued.answered {text : String} (h : x.Issued s text)
    (waits : x.rest = .query q next) (reply : Reply q) :
    (x.answered q next reply).Issued s text := by
  cases h with
  | access ended handed => cases waits.symm.trans ended
  | pending ended handed => cases waits.symm.trans ended
  | refresh login signed => exact .refresh login signed

/-- The threads after a query are the thread that asked and the others. -/
theorem mem_answered {x' y : Thread} (h : y ∈ before ++ x' :: after) :
    y = x' ∨ y ∈ before ++ x :: after := by
  rcases List.mem_append.1 h with h | h
  · exact .inr (List.mem_append_left _ h)
  · rcases List.mem_cons.1 h with rfl | h
    · exact .inl rfl
    · exact .inr (List.mem_append_right _ (List.mem_cons_of_mem _ h))

/-- What was handed out stays known. -/
theorem Step.knows {text : String} (step : Step s m pool pool') (h : pool.Knows s text) :
    pool'.Knows s text := by
  obtain ⟨y, hy, issued⟩ := h
  cases step with
  | arrive known admitted => exact ⟨y, List.mem_cons_of_mem _ hy, issued⟩
  | @ask memory before after x q next waits =>
      rcases mem_answered (x := x.answered q next (memory.answer q).1) hy with rfl | hy
      · exact ⟨_, List.mem_append_right _ List.mem_cons_self, issued.answered waits _⟩
      · exact ⟨y, hy, issued⟩

theorem Step.issued {t : Claims} (step : Step s m pool pool') (h : pool.Issued s t) :
    pool'.Issued s t := by
  obtain ⟨text, now, known, verified⟩ := h
  exact ⟨text, now, step.knows known, verified⟩

theorem Step.accepts {e : Event} (step : Step s m pool pool') (h : pool.Accepts s m e) :
    pool'.Accepts s m e where
  time := h.time
  once := h.once
  absent := h.absent
  genuine text presented now claims verified :=
    step.knows (h.genuine text presented now claims verified)
  principal p ended := (h.principal p ended).imp_left step.issued

/-- Nothing is served at first. -/
theorem Sound.start (s : Service) (m : Memory) : Sound s m ⟨m, []⟩ where
  accepted _ h := absurd h List.not_mem_nil
  own := .nil
  goesOn _ h := absurd h List.not_mem_nil
  ledger name := by simp

/-- A request that arrives keeps the pool sound. -/
theorem Sound.arrive (sound : Sound s m pool) {e : Event} {program : Action Handout}
    (known : e.program? s = some program) (admitted : pool.Admits s m e) :
    Sound s m ⟨pool.memory, ⟨⟨pool.memory, e⟩, [], program⟩ :: pool.threads⟩ where
  accepted := by
    have step := Step.arrive known admitted
    refine List.forall_mem_cons.2 ⟨step.accepts admitted.toAccepts, ?_⟩
    intro y hy
    exact step.accepts (sound.accepted y hy)
  own := by
    refine List.pairwise_cons.2 ⟨?_, sound.own⟩
    intro y hy id hid
    exact admitted.unused id hid y hy
  goesOn := List.forall_mem_cons.2 ⟨Event.program_ends known pool.memory, sound.goesOn⟩
  ledger name := by
    rw [sound.ledger name]
    simp

/-- No thread drops rows. -/
theorem Sound.keeps (sound : Sound s m pool) (hx : x ∈ pool.threads)
    (waits : x.rest = .query q next) (t : Token.Time) : q ≠ .dropRejections t := by
  rintro rfl
  have goesOn := sound.goesOn x hx
  rw [waits] at goesOn
  obtain ⟨asked, made, -⟩ := (goesOn pool.memory).run pool.memory
  have drops : .dropRejections t ∈ s.endingChanges x.event.ended? := by
    rw [← made]
    simp [Query.changesLedger]
  unfold Service.endingChanges at drops
  cases ended : x.event.ended? with
  | none => simp [ended] at drops
  | some p =>
      rw [ended, Option.map_some, Option.getD_some, Ledger.endingQueries] at drops
      cases hp : p.parent? <;> simp [hp] at drops

/-- The rows that are written after a query of a thread. -/
theorem written_answered_iff (reply : Reply q) (name : String) :
    (∃ y ∈ before ++ x.answered q next reply :: after, ∃ row,
        .reject row ∈ y.asked ∧ row.tokenId = name) ↔
      (∃ y ∈ before ++ x :: after, ∃ row, .reject row ∈ y.asked ∧ row.tokenId = name) ∨
        ∃ row, q = .reject row ∧ row.tokenId = name := by
  have own : (∃ row, .reject row ∈ (x.answered q next reply).asked ∧ row.tokenId = name) ↔
      (∃ row, .reject row ∈ x.asked ∧ row.tokenId = name) ∨
        ∃ row, q = .reject row ∧ row.tokenId = name := by
    simp [Thread.answered, or_and_right, exists_or, eq_comm]
  simp only [List.mem_append, List.mem_cons, or_and_right, exists_or, exists_eq_left, own, or_assoc]
  exact or_congr_right (or_congr_right or_comm)

/-- A query of a thread keeps the pool sound. -/
theorem Sound.ask (sound : Sound s m ⟨memory, before ++ x :: after⟩)
    (waits : x.rest = .query q next) :
    Sound s m
      ⟨(memory.answer q).2, before ++ x.answered q next (memory.answer q).1 :: after⟩ where
  accepted := by
    intro y hy
    have step : Step s m ⟨memory, before ++ x :: after⟩ _ := .ask waits
    refine step.accepts ?_
    rcases mem_answered (x := x) hy with rfl | hy
    · exact sound.accepted x (by simp)
    · exact sound.accepted y hy
  own := by
    have own := sound.own
    rw [List.pairwise_append, List.pairwise_cons] at own ⊢
    obtain ⟨own₁, own₂, own₃⟩ := own
    refine ⟨own₁, own₂, fun y hy => ?_⟩
    exact List.forall_mem_cons.2 (List.forall_mem_cons.1 (own₃ y hy))
  goesOn := by
    intro y hy
    rcases mem_answered (x := x) hy with rfl | hy
    · have goesOn := sound.goesOn x (by simp)
      rw [waits] at goesOn
      refine (goesOn memory).mono fun asked h goes => ?_
      simpa [Thread.answered] using goes
    · exact sound.goesOn y hy
  ledger name := by
    have kept (t : Token.Time) : q ≠ .dropRejections t := sound.keeps (by simp) waits t
    rw [written_answered_iff, ← or_assoc, ← sound.ledger name]
    exact Memory.contains_answer_iff kept name

/-- Every step keeps the pool sound. -/
theorem Sound.step (sound : Sound s m pool) (step : Step s m pool pool') : Sound s m pool' := by
  cases step with
  | arrive known admitted => exact sound.arrive known admitted
  | ask waits => exact sound.ask waits

/-- Every pool that comes about is sound. -/
theorem Reached.sound (h : Reached s m pool) : Sound s m pool := by
  induction h with
  | start => exact Sound.start s m
  | step before step ih => exact ih.step step

end Steps

end Gatehouse.Access
