import Gatehouse.Proofs.Access.Flow
import Gatehouse.Proofs.Store.Exchange

/-!
# Request flows - Under interference

What a flow gives and what it writes into the ledger, whatever states its queries find.  Other
requests can be served between any two queries of a flow, so this is what is left to say of a flow
that is not alone.

Main definitions:

- `Flow.Gives` and `CookieFlow.Gives`: what can be said of the values that a flow ends with.
- `Flow.Writes` and `CookieFlow.Writes`: the queries of a flow that change the ledger.
- `Flow.Tells` and `CookieFlow.Tells`: what a flow asks, what it is told and how it ends.

Main results:

- Theorem `Flow.Gives.bind` and theorem `CookieFlow.Gives.bind`: the values of a flow that follows
  another one.
- Theorem `Flow.Writes.bind` and theorem `CookieFlow.Writes.bind`: only the first flow writes.
- Theorem `Flow.Tells.bind` and theorem `CookieFlow.Tells.bind`: a flow that follows another one is
  told what comes after that.
-/

namespace Gatehouse.Store

/-- Does the query change the ledger? -/
def Query.changesLedger : Query → Bool
  | .reject _ | .dropRejections _ => true
  | _ => false

/-- Whoever has made some changes of the ledger and is done has made just these. -/
theorem Action.ends_done {α : Type} {asked changes : List Query} (a : α)
    (made : asked.filter Query.changesLedger = changes) :
    (Action.done a).Ends Memory.answer fun asked' _ =>
      (asked ++ asked').filter Query.changesLedger = changes := by
  show (asked ++ []).filter Query.changesLedger = changes
  rw [List.append_nil, made]

end Gatehouse.Store

namespace Gatehouse.Access

open Http (Headers)
open Store (Action Asking Exchange Memory Query Reply)

variable {α β σ : Type} {answer : σ → (q : Query) → Reply q × σ} {P : α → Prop} {Q : β → Prop}
  {changes : List Query} {T : List Exchange → Except Error α → Prop}
  {U : List Exchange → Except Error β → Prop}

/-! ## Flows -/

namespace Flow

/-- Whatever states its queries find, the flow ends well only with values as `P` says. -/
structure Gives (answer : σ → (q : Query) → Reply q × σ) (P : α → Prop) (x : Flow α) : Prop where
  ends : x.run.Ends answer fun _ r => ∀ a, r = .ok a → P a

theorem gives_pure {a : α} (h : P a) : Flow.Gives answer P (pure a) where
  ends := by
    rintro a' ⟨⟩
    exact h

theorem gives_throw (e : Error) : Flow.Gives answer P (throw e) := ⟨nofun⟩

/-- A flow whose values do not matter. -/
theorem gives_of_forall (x : Flow α) (h : ∀ a, P a) : x.Gives answer P :=
  ⟨Action.ends_of_forall _ fun _ _ a _ => h a⟩

/-- A flow of which nothing has to be known. -/
theorem gives_true (x : Flow α) : x.Gives answer fun _ => True :=
  gives_of_forall x fun _ => trivial

theorem Gives.bind {x : Flow α} {f : α → Flow β} (hx : x.Gives answer P)
    (hf : ∀ a, P a → (f a).Gives answer Q) : Flow.Gives answer Q (x >>= f) where
  ends := by
    refine Action.Ends.bind hx.ends fun asked r given => ?_
    cases r with
    | ok a => exact (hf a (given a rfl)).ends
    | error e => exact nofun

/-- What follows a check has passed the check. -/
theorem Gives.guard {p : Prop} [Decidable p] {e : Error} {rest : Unit → Flow α}
    (h : ¬p → (rest ()).Gives answer P) :
    Flow.Gives answer P (if p then throw e >>= rest else rest ()) := by
  split
  · exact gives_throw e
  · exact h ‹_›

/-- What a flow ends with when nobody interferes. -/
theorem Gives.run {x : Flow α} (h : x.Gives answer P) {s : σ} {a : α}
    (ended : (x.run.run answer s).1 = .ok a) : P a := by
  obtain ⟨-, given⟩ := h.ends.run s
  exact given a ended

/-- Against the store in memory, the flow changes the ledger with the given queries, whatever states
its queries find. -/
structure Writes (changes : List Query) (x : Flow α) : Prop where
  ends : x.run.Ends Memory.answer fun asked _ => asked.filter Query.changesLedger = changes

theorem writes_pure (a : α) : Flow.Writes [] (pure a : Flow α) := ⟨rfl⟩

theorem writes_throw (e : Error) : Flow.Writes [] (throw e : Flow α) := ⟨rfl⟩

/-- The flow in front is the only one that writes. -/
theorem Writes.bind {x : Flow α} {f : α → Flow β} (hx : x.Writes changes)
    (hf : ∀ a, (f a).Writes []) : Flow.Writes changes (x >>= f) where
  ends := by
    refine Action.Ends.bind hx.ends fun asked r first => ?_
    cases r with
    | ok a =>
        refine (hf a).ends.mono fun asked' r nothing => ?_
        rw [List.filter_append, first, nothing, List.append_nil]
    | error e => exact Action.ends_done _ first

theorem Writes.guard {p : Prop} [Decidable p] {e : Error} {rest : Unit → Flow α}
    (h : (rest ()).Writes []) :
    Flow.Writes [] (if p then throw e >>= rest else rest ()) := by
  split
  · exact writes_throw e
  · exact h

/-- Fetching writes what the question writes. -/
theorem writes_fetch {x : Asking α}
    (h : x.run.Ends Memory.answer fun asked _ => asked.filter Query.changesLedger = changes) :
    (fetch x).Writes changes where
  ends := by
    refine Action.Ends.bind h fun asked r first => ?_
    cases r <;> exact Action.ends_done _ first

/-- Looking up writes what the question writes. -/
theorem writes_lookup? {x : Asking α}
    (h : x.run.Ends Memory.answer fun asked _ => asked.filter Query.changesLedger = changes) :
    (lookup? x).Writes changes where
  ends := by
    refine Action.Ends.bind h fun asked r first => ?_
    cases r <;> exact Action.ends_done _ first

/-- Against the store in memory, the flow asks, is told and ends as `T` says, whatever states its
queries find. -/
structure Tells (T : List Exchange → Except Error α → Prop) (x : Flow α) : Prop where
  ends : x.run.Tells Memory.answer T

theorem tells_pure {a : α} (h : T [] (.ok a)) : Flow.Tells T (pure a) := ⟨h⟩

theorem tells_throw {e : Error} (h : T [] (.error e)) : Flow.Tells T (throw e) := ⟨h⟩

theorem Tells.bind {x : Flow α} {f : α → Flow β} (hx : x.Tells T)
    (failed : ∀ told e, T told (.error e) → U told (.error e))
    (goesOn : ∀ told a, T told (.ok a) → (f a).Tells fun told' => U (told ++ told')) :
    Flow.Tells U (x >>= f) where
  ends := by
    refine Action.Tells.bind hx.ends fun told r first => ?_
    cases r with
    | ok a => exact (goesOn told a first).ends
    | error e =>
        show U (told ++ []) (.error e)
        rw [List.append_nil]
        exact failed told e first

/-- Fetching asks what the question asks. -/
theorem tells_fetch_of_ends {x : Asking α} {asked : List Query}
    (h : x.run.Ends Memory.answer fun asked' _ => asked' = asked) :
    (fetch x).Tells fun told _ => told.map Exchange.query = asked where
  ends := by
    refine Action.Tells.bind h.tells fun told r first => ?_
    have only : (told ++ []).map Exchange.query = asked := by rw [List.append_nil, first]
    cases r <;> exact only

/-- What is always answered is fetched. -/
theorem tells_fetch (q : Query) (answered : ∀ m : Memory, ∃ a, (m.answer q).1 = .ok a) :
    (fetch (Asking.send q)).Tells fun told r => ∃ a, told = [⟨q, .ok a⟩] ∧ r = .ok a where
  ends m := by
    obtain ⟨a, answer⟩ := answered m
    generalize (m.answer q).1 = reply at answer ⊢
    subst answer
    exact ⟨a, rfl, rfl⟩

end Flow

/-! ## Cookie flows -/

namespace CookieFlow

/-- Whatever states its queries find, the flow ends well only with values as `P` says. -/
structure Gives (answer : σ → (q : Query) → Reply q × σ) (P : α → Prop) (x : CookieFlow α) :
    Prop where
  ends : ∀ headers, (x.run.run headers).Ends answer fun _ r => ∀ a, r.1 = .ok a → P a

theorem gives_pure {a : α} (h : P a) : CookieFlow.Gives answer P (pure a) where
  ends := by
    rintro headers a' ⟨⟩
    exact h

theorem gives_throw (e : Error) : CookieFlow.Gives answer P (throw e) := ⟨fun _ => nofun⟩

/-- A flow of which nothing has to be known. -/
theorem gives_true (x : CookieFlow α) : x.Gives answer fun _ => True :=
  ⟨fun _ => Action.ends_of_forall _ fun _ _ _ _ => trivial⟩

theorem Gives.bind {x : CookieFlow α} {f : α → CookieFlow β} (hx : x.Gives answer P)
    (hf : ∀ a, P a → (f a).Gives answer Q) : CookieFlow.Gives answer Q (x >>= f) where
  ends headers := by
    refine Action.Ends.bind (hx.ends headers) fun asked r given => ?_
    obtain ⟨r, headers'⟩ := r
    cases r with
    | ok a => exact (hf a (given a rfl)).ends headers'
    | error e => exact nofun

theorem Gives.guard {p : Prop} [Decidable p] {e : Error} {rest : Unit → CookieFlow α}
    (h : ¬p → (rest ()).Gives answer P) :
    CookieFlow.Gives answer P (if p then throw e >>= rest else rest ()) := by
  split
  · exact gives_throw e
  · exact h ‹_›

theorem gives_withCookies {x : Flow α} (h : x.Gives answer P) :
    CookieFlow.Gives answer P (Flow.withCookies x) where
  ends _ := Action.Ends.bind h.ends fun _ _ given a ended => given a ended

/-- Issuing asks nothing, and is done at once. -/
theorem run_issuing (x : Token.Issuing α) (headers : Headers) :
    (issuing x).run.run headers =
      .done ((x.run headers).1.mapError .ofIssue, (x.run headers).2) := by
  rcases ended : x.run headers with ⟨r, headers'⟩
  have applied : x headers = (r, headers') := ended
  unfold issuing
  cases r with
  | ok a =>
      show _ = Action.done ((.ok a : Except Error α), headers')
      simp [ExceptT.run, StateT.run, ExceptT.mk, applied]
  | error e =>
      show _ = Action.done ((.error (.ofIssue e) : Except Error α), headers')
      simp [ExceptT.run, StateT.run, ExceptT.mk, applied]

theorem gives_issuing {x : Token.Issuing α}
    (h : ∀ headers headers' a, x.run headers = (.ok a, headers') → P a) :
    (issuing x).Gives answer P where
  ends headers := by
    rw [run_issuing]
    rcases ended : x.run headers with ⟨r, headers'⟩
    intro a same
    cases r with
    | ok a' =>
        cases same
        exact h headers headers' a ended
    | error e => cases same

/-- What a flow ends with when nobody interferes. -/
theorem Gives.run {x : CookieFlow α} (h : x.Gives answer P) {headers : Headers} {s : σ} {a : α}
    (ended : ((x.run.run headers).run answer s).1.1 = .ok a) : P a := by
  obtain ⟨-, given⟩ := (h.ends headers).run s
  exact given a ended

/-- Against the store in memory, the flow changes the ledger with the given queries, whatever states
its queries find. -/
structure Writes (changes : List Query) (x : CookieFlow α) : Prop where
  ends : ∀ headers, (x.run.run headers).Ends Memory.answer fun asked _ =>
    asked.filter Query.changesLedger = changes

theorem writes_pure (a : α) : CookieFlow.Writes [] (pure a : CookieFlow α) := ⟨fun _ => rfl⟩

theorem writes_throw (e : Error) : CookieFlow.Writes [] (throw e : CookieFlow α) :=
  ⟨fun _ => rfl⟩

/-- The flow in front is the only one that writes. -/
theorem Writes.bind {x : CookieFlow α} {f : α → CookieFlow β} (hx : x.Writes changes)
    (hf : ∀ a, (f a).Writes []) : CookieFlow.Writes changes (x >>= f) where
  ends headers := by
    refine Action.Ends.bind (hx.ends headers) fun asked r first => ?_
    obtain ⟨r, headers'⟩ := r
    cases r with
    | ok a =>
        refine ((hf a).ends headers').mono fun asked' r nothing => ?_
        rw [List.filter_append, first, nothing, List.append_nil]
    | error e => exact Action.ends_done _ first

theorem Writes.guard {p : Prop} [Decidable p] {e : Error} {rest : Unit → CookieFlow α}
    (h : (rest ()).Writes []) :
    CookieFlow.Writes [] (if p then throw e >>= rest else rest ()) := by
  split
  · exact writes_throw e
  · exact h

theorem writes_withCookies {x : Flow α} (h : x.Writes changes) :
    CookieFlow.Writes changes (Flow.withCookies x) where
  ends _ := Action.Ends.bind h.ends fun _ _ first => Action.ends_done _ first

/-- Issuing has nothing to do with the ledger. -/
theorem writes_issuing (x : Token.Issuing α) : (issuing x).Writes [] where
  ends headers := by
    rw [run_issuing]
    rfl

/-- Against the store in memory, the flow asks, is told and ends as `T` says, whatever states its
queries find. -/
structure Tells (T : List Exchange → Except Error α → Prop) (x : CookieFlow α) : Prop where
  ends : ∀ headers, (x.run.run headers).Tells Memory.answer fun told r => T told r.1

theorem tells_pure {a : α} (h : T [] (.ok a)) : CookieFlow.Tells T (pure a) := ⟨fun _ => h⟩

theorem Tells.bind {x : CookieFlow α} {f : α → CookieFlow β} (hx : x.Tells T)
    (failed : ∀ told e, T told (.error e) → U told (.error e))
    (goesOn : ∀ told a, T told (.ok a) → (f a).Tells fun told' => U (told ++ told')) :
    CookieFlow.Tells U (x >>= f) where
  ends headers := by
    refine Action.Tells.bind (hx.ends headers) fun told r first => ?_
    obtain ⟨r, headers'⟩ := r
    cases r with
    | ok a => exact (goesOn told a first).ends headers'
    | error e =>
        show U (told ++ []) (.error e)
        rw [List.append_nil]
        exact failed told e first

theorem Tells.mono {T' : List Exchange → Except Error α → Prop} {x : CookieFlow α}
    (h : x.Tells T) (hT : ∀ told r, T told r → T' told r) : x.Tells T' where
  ends headers := (h.ends headers).mono fun told r => hT told r.1

theorem tells_withCookies {x : Flow α} (h : x.Tells T) :
    CookieFlow.Tells T (Flow.withCookies x) where
  ends headers := by
    refine Action.Tells.bind h.ends fun told r first => ?_
    show T (told ++ []) r
    rwa [List.append_nil]

/-- Issuing asks nothing, and who is not issued a token is told of an internal error. -/
theorem tells_issuing (x : Token.Issuing α) :
    (issuing x).Tells fun told r => told = [] ∧
      ∀ e, r = .error e → ∃ detail, e = .internal detail where
  ends headers := by
    rw [run_issuing]
    rcases x.run headers with ⟨r, headers'⟩
    refine ⟨rfl, fun e same => ?_⟩
    cases r with
    | ok a => cases same
    | error e' =>
        cases same
        exact ⟨_, rfl⟩

end CookieFlow

end Gatehouse.Access
