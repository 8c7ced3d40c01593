import Gatehouse.Access.Flow
import Gatehouse.Store.Memory

/-!
# Request flows - Running against the store in memory

A flow that runs against the store in memory ends with a result and leaves a store.  The lemmas say
how the parts of a flow follow each other, so that a proof about a flow takes it apart step by step
and never looks into the action behind it.

Main definitions: `Flow.runOn` and `Flow.Keeps`, `Flow.Reads`, and their likes for cookie flows.

Main results:

- Theorem `Flow.exists_of_bind` and theorem `CookieFlow.exists_of_bind`: a flow that ends well has
  a first part that ends well.
- Theorem `Flow.Keeps.bind` and theorem `CookieFlow.Keeps.bind`: a part of the store that every step
  leaves alone is the same at the end.
- Theorem `Flow.Reads.bind` and theorem `CookieFlow.Reads.bind`: a flow of steps that only read ends
  well and only reads.
-/

namespace Gatehouse.Store

variable {α β : Type} {m : Memory}

/-- Run a question against the store in memory. -/
def Asking.runOn (x : Asking α) (m : Memory) : Except Failure α × Memory :=
  x.run.run Memory.answer m

@[simp] theorem Asking.runOn_pure (a : α) : Asking.runOn (pure a) m = (.ok a, m) := rfl

@[simp] theorem Asking.runOn_send (q : Query) : (Asking.send q).runOn m = m.answer q := rfl

/-- A question that follows an answer starts in the store that the answer left. -/
theorem Asking.runOn_bind {x : Asking α} {f : α → Asking β} {a : α} {m' : Memory}
    (h : x.runOn m = (.ok a, m')) : (x >>= f).runOn m = (f a).runOn m' := by
  have unfolded : (x >>= f).runOn m =
      (ExceptT.bindCont f (x.runOn m).1).run Memory.answer (x.runOn m).2 :=
    Action.run_bind Memory.answer x.run (ExceptT.bindCont f) m
  rw [unfolded, h]
  rfl

end Gatehouse.Store

namespace Gatehouse.Access

open Store (Asking Memory Action)
open Http (Headers)

variable {α β : Type} {m m' : Memory} {headers headers' : Headers}

/-! ## Flows -/

namespace Flow

/-- Run a flow against the store in memory. -/
def runOn (x : Flow α) (m : Memory) : Except Error α × Memory :=
  x.run.run Memory.answer m

@[simp] theorem runOn_pure (a : α) : Flow.runOn (pure a) m = (.ok a, m) := rfl

@[simp] theorem runOn_throw (e : Error) : Flow.runOn (throw e : Flow α) m = (.error e, m) := rfl

theorem runOn_bind (x : Flow α) (f : α → Flow β) :
    Flow.runOn (x >>= f) m =
      match Flow.runOn x m with
      | (.ok a, m') => Flow.runOn (f a) m'
      | (.error e, m') => (.error e, m') := by
  have unfolded : Flow.runOn (x >>= f) m =
      (ExceptT.bindCont f (Flow.runOn x m).1).run Memory.answer (Flow.runOn x m).2 :=
    Action.run_bind Memory.answer x.run (ExceptT.bindCont f) m
  rw [unfolded]
  obtain ⟨r, m'⟩ := Flow.runOn x m
  cases r <;> rfl

theorem runOn_bind_ok {x : Flow α} {f : α → Flow β} {a : α} (h : x.runOn m = (.ok a, m')) :
    Flow.runOn (x >>= f) m = Flow.runOn (f a) m' := by
  rw [runOn_bind, h]

/-- A flow that ends well has a first part that ends well. -/
theorem exists_of_bind {x : Flow α} {f : α → Flow β} {b : β}
    (h : Flow.runOn (x >>= f) m = (.ok b, m')) :
    ∃ a m₁, x.runOn m = (.ok a, m₁) ∧ Flow.runOn (f a) m₁ = (.ok b, m') := by
  rw [runOn_bind] at h
  rcases hx : Flow.runOn x m with ⟨r, m₁⟩
  rw [hx] at h
  cases r with
  | ok a => exact ⟨a, m₁, rfl, h⟩
  | error e => cases h

/-- What has to be there is fetched with the answer of the store. -/
theorem runOn_fetch {x : Asking α} {a : α} (h : x.runOn m = (.ok a, m')) :
    (fetch x).runOn m = (.ok a, m') := by
  have unfolded : (fetch x).runOn m = _ := Action.run_bind Memory.answer x.run _ m
  rw [unfolded]
  change x.run.run Memory.answer m = _ at h
  rw [h]
  rfl

/-- What is found in a table is looked up. -/
theorem runOn_lookup? {x : Asking α} {a : Option α} (h : x.runOn m = (Memory.found a, m')) :
    (lookup? x).runOn m = (.ok a, m') := by
  have unfolded : (lookup? x).runOn m = _ := Action.run_bind Memory.answer x.run _ m
  rw [unfolded]
  change x.run.run Memory.answer m = _ at h
  rw [h]
  cases a <;> rfl

/-- The flow leaves a part of the store alone, however it ends. -/
def Keeps {γ : Type} (part : Memory → γ) (x : Flow α) : Prop :=
  ∀ m, part (x.runOn m).2 = part m

section Keeps

variable {γ : Type} {part : Memory → γ}

theorem keeps_pure (a : α) : Flow.Keeps part (pure a : Flow α) := fun _ => rfl

theorem keeps_throw (e : Error) : Flow.Keeps part (throw e : Flow α) := fun _ => rfl

/-- What goes on to leave a part of the store alone ends with the part that its beginning left. -/
theorem part_bind {x : Flow α} {f : α → Flow β} (hf : ∀ a, Flow.Keeps part (f a)) (m : Memory) :
    part (Flow.runOn (x >>= f) m).2 = part (x.runOn m).2 := by
  rw [runOn_bind]
  rcases x.runOn m with ⟨r, m₁⟩
  cases r with
  | ok a => exact hf a m₁
  | error e => rfl

theorem Keeps.bind {x : Flow α} {f : α → Flow β} (hx : x.Keeps part)
    (hf : ∀ a, Flow.Keeps part (f a)) : Flow.Keeps part (x >>= f) :=
  fun m => (part_bind hf m).trans (hx m)

/-- A check in front of the rest changes nothing by itself. -/
theorem Keeps.guard {p : Prop} [Decidable p] {e : Error} {rest : Unit → Flow α}
    (h : (rest ()).Keeps part) :
    Flow.Keeps part (if p then throw e >>= rest else rest ()) := by
  split
  · exact keeps_throw e
  · exact h

/-- Fetching changes the store as the question does. -/
theorem keeps_fetch {x : Asking α} (h : ∀ m, part (x.runOn m).2 = part m) :
    (fetch x).Keeps part := by
  intro m
  have unfolded : (fetch x).runOn m = _ := Action.run_bind Memory.answer x.run _ m
  rw [unfolded, ← h m]
  unfold Asking.runOn
  rcases x.run.run Memory.answer m with ⟨r, m₁⟩
  cases r <;> rfl

/-- Looking up changes the store as the question does. -/
theorem keeps_lookup? {x : Asking α} (h : ∀ m, part (x.runOn m).2 = part m) :
    (lookup? x).Keeps part := by
  intro m
  have unfolded : (lookup? x).runOn m = _ := Action.run_bind Memory.answer x.run _ m
  rw [unfolded, ← h m]
  unfold Asking.runOn
  rcases x.run.run Memory.answer m with ⟨r, m₁⟩
  cases r with
  | ok a => rfl
  | error f => cases f <;> rfl

end Keeps

/-- The flow only reads: it ends well on every store and leaves the store as it is. -/
def Reads (x : Flow α) : Prop :=
  ∀ m, ∃ a, x.runOn m = (.ok a, m)

section Reads

theorem reads_pure (a : α) : Flow.Reads (pure a : Flow α) := fun _ => ⟨a, rfl⟩

theorem Reads.bind {x : Flow α} {f : α → Flow β} (hx : x.Reads) (hf : ∀ a, (f a).Reads) :
    Flow.Reads (x >>= f) := by
  intro m
  obtain ⟨a, ha⟩ := hx m
  obtain ⟨b, hb⟩ := hf a m
  exact ⟨b, (runOn_bind_ok ha).trans hb⟩

theorem reads_fetch {x : Asking α} (h : ∀ m, ∃ a, x.runOn m = (.ok a, m)) : (fetch x).Reads := by
  intro m
  obtain ⟨a, ha⟩ := h m
  exact ⟨a, runOn_fetch ha⟩

theorem reads_lookup? {x : Asking α} (h : ∀ m, ∃ a, x.runOn m = (Memory.found a, m)) :
    (lookup? x).Reads := by
  intro m
  obtain ⟨a, ha⟩ := h m
  exact ⟨a, runOn_lookup? ha⟩

/-- A flow that only reads for every item of a list only reads for the list. -/
theorem reads_mapM {f : α → Flow β} (h : ∀ a, (f a).Reads) (l : List α) :
    Flow.Reads (l.mapM f) := by
  have loop : ∀ done : List β, Flow.Reads (List.mapM.loop f l done) := by
    induction l with
    | nil => exact fun done => reads_pure _
    | cons a l ih => exact fun done => (h a).bind fun b => ih _
  exact loop []

/-- A flow that only reads the same thing for each item reads them all in their order. -/
theorem runOn_mapM {f : α → Flow β} {g : α → β} (h : ∀ a, (f a).runOn m = (.ok (g a), m))
    (l : List α) : Flow.runOn (l.mapM f) m = (.ok (l.map g), m) := by
  have loop : ∀ done : List β,
      Flow.runOn (List.mapM.loop f l done) m = (.ok (done.reverse ++ l.map g), m) := by
    induction l with
    | nil =>
        intro done
        rw [List.map_nil, List.append_nil]
        rfl
    | cons a l ih =>
        intro done
        refine (runOn_bind_ok (h a)).trans ((ih (g a :: done)).trans ?_)
        simp
  exact loop []

end Reads

end Flow

/-! ## Cookie flows -/

namespace CookieFlow

/-- Run a cookie flow against the store in memory, with some cookies in the header already. -/
def runOn (x : CookieFlow α) (headers : Headers) (m : Memory) :
    Except Error α × Headers × Memory :=
  let ended := (x.run.run headers).run Memory.answer m
  (ended.1.1, ended.1.2, ended.2)

@[simp] theorem runOn_pure (a : α) :
    CookieFlow.runOn (pure a) headers m = (.ok a, headers, m) := rfl

@[simp] theorem runOn_throw (e : Error) :
    CookieFlow.runOn (throw e : CookieFlow α) headers m = (.error e, headers, m) := rfl

/-- What a flow ends with against the store in memory. -/
theorem ended_of_runOn {x : CookieFlow α} {r : Except Error α}
    (h : x.runOn headers m = (r, headers', m')) :
    ((x.run.run headers).run Memory.answer m).1.1 = r :=
  congrArg Prod.fst h

theorem runOn_bind (x : CookieFlow α) (f : α → CookieFlow β) :
    CookieFlow.runOn (x >>= f) headers m =
      match CookieFlow.runOn x headers m with
      | (.ok a, headers', m') => CookieFlow.runOn (f a) headers' m'
      | (.error e, headers', m') => (.error e, headers', m') := by
  have unfolded := Action.run_bind Memory.answer (x.run.run headers)
    (fun r => (ExceptT.bindCont f r.1).run r.2) m
  unfold CookieFlow.runOn
  have split : ((x >>= f).run.run headers).run Memory.answer m = _ := unfolded
  rw [split]
  obtain ⟨⟨r, headers'⟩, m'⟩ := (x.run.run headers).run Memory.answer m
  cases r <;> rfl

theorem runOn_bind_ok {x : CookieFlow α} {f : α → CookieFlow β} {a : α}
    (h : x.runOn headers m = (.ok a, headers', m')) :
    CookieFlow.runOn (x >>= f) headers m = CookieFlow.runOn (f a) headers' m' := by
  rw [runOn_bind, h]

/-- A flow that ends well has a first part that ends well. -/
theorem exists_of_bind {x : CookieFlow α} {f : α → CookieFlow β} {b : β}
    (h : CookieFlow.runOn (x >>= f) headers m = (.ok b, headers', m')) :
    ∃ a headers₁ m₁, x.runOn headers m = (.ok a, headers₁, m₁) ∧
      CookieFlow.runOn (f a) headers₁ m₁ = (.ok b, headers', m') := by
  rw [runOn_bind] at h
  rcases hx : CookieFlow.runOn x headers m with ⟨r, headers₁, m₁⟩
  rw [hx] at h
  cases r with
  | ok a => exact ⟨a, headers₁, m₁, rfl, h⟩
  | error e => cases h

theorem runOn_withCookies (x : Flow α) :
    CookieFlow.runOn (Flow.withCookies x) headers m =
      ((x.runOn m).1, headers, (x.runOn m).2) := by
  have unfolded := Action.run_bind Memory.answer x.run (fun r => pure (r, headers)) m
  unfold CookieFlow.runOn
  have split : ((Flow.withCookies x).run.run headers).run Memory.answer m = _ := unfolded
  rw [split]
  rfl

theorem runOn_withCookies_bind {x : Flow α} {f : α → CookieFlow β} {a : α}
    (h : x.runOn m = (.ok a, m')) :
    CookieFlow.runOn (Flow.withCookies x >>= f) headers m = CookieFlow.runOn (f a) headers m' :=
  runOn_bind_ok (by rw [runOn_withCookies, h])

/-- What follows a flow that ends well starts in the store that the flow left. -/
theorem exists_of_withCookies_bind {x : Flow α} {f : α → CookieFlow β} {b : β}
    (h : CookieFlow.runOn (Flow.withCookies x >>= f) headers m = (.ok b, headers', m')) :
    ∃ a m₁, x.runOn m = (.ok a, m₁) ∧
      CookieFlow.runOn (f a) headers m₁ = (.ok b, headers', m') := by
  obtain ⟨a, headers₁, m₁, hx, h⟩ := exists_of_bind h
  rw [runOn_withCookies] at hx
  rcases hr : x.runOn m with ⟨r, m₂⟩
  rw [hr] at hx
  obtain ⟨rfl, -, rfl⟩ : r = .ok a ∧ headers = headers₁ ∧ m₂ = m₁ := by simpa using hx
  simp only [Prod.mk.injEq] at hx
  exact ⟨a, m₂, rfl, hx.2.1 ▸ h⟩

theorem runOn_issuing (x : Token.Issuing α) :
    CookieFlow.runOn (issuing x) headers m =
      match x.run headers with
      | (.ok a, headers') => (.ok a, headers', m)
      | (.error e, headers') => (.error (.ofIssue e), headers', m) := by
  have unfolded : CookieFlow.runOn (issuing x) headers m =
      let ended := (match x.run headers with
        | (.ok a, headers) => (pure (Except.ok a, headers) : Action (Except Error α × Headers))
        | (.error e, headers) => pure (Except.error (.ofIssue e), headers)).run Memory.answer m
      (ended.1.1, ended.1.2, ended.2) := rfl
  rw [unfolded]
  rcases x.run headers with ⟨r, headers'⟩
  cases r <;> rfl

theorem runOn_issuing_bind {x : Token.Issuing α} {f : α → CookieFlow β} {a : α}
    (h : x.run headers = (.ok a, headers')) :
    CookieFlow.runOn (issuing x >>= f) headers m = CookieFlow.runOn (f a) headers' m :=
  runOn_bind_ok (by rw [runOn_issuing, h])

/-- What follows the issue of a token starts in the same store. -/
theorem exists_of_issuing_bind {x : Token.Issuing α} {f : α → CookieFlow β} {b : β}
    (h : CookieFlow.runOn (issuing x >>= f) headers m = (.ok b, headers', m')) :
    ∃ a headers₁, x.run headers = (.ok a, headers₁) ∧
      CookieFlow.runOn (f a) headers₁ m = (.ok b, headers', m') := by
  obtain ⟨a, headers₁, m₁, hx, h⟩ := exists_of_bind h
  rw [runOn_issuing] at hx
  rcases hr : x.run headers with ⟨r, headers₂⟩
  rw [hr] at hx
  cases r with
  | ok a =>
      cases hx
      exact ⟨a, headers₁, rfl, h⟩
  | error e => cases hx

/-- The flow leaves a part of the store alone, however it ends. -/
def Keeps {γ : Type} (part : Memory → γ) (x : CookieFlow α) : Prop :=
  ∀ headers m, part (x.runOn headers m).2.2 = part m

section Keeps

variable {γ : Type} {part : Memory → γ}

theorem keeps_pure (a : α) : CookieFlow.Keeps part (pure a : CookieFlow α) := fun _ _ => rfl

theorem keeps_throw (e : Error) : CookieFlow.Keeps part (throw e : CookieFlow α) :=
  fun _ _ => rfl

/-- What goes on to leave a part of the store alone ends with the part that its beginning left. -/
theorem part_bind {x : CookieFlow α} {f : α → CookieFlow β}
    (hf : ∀ a, CookieFlow.Keeps part (f a)) (headers : Headers) (m : Memory) :
    part (CookieFlow.runOn (x >>= f) headers m).2.2 = part (x.runOn headers m).2.2 := by
  rw [runOn_bind]
  rcases x.runOn headers m with ⟨r, headers₁, m₁⟩
  cases r with
  | ok a => exact hf a headers₁ m₁
  | error e => rfl

theorem Keeps.bind {x : CookieFlow α} {f : α → CookieFlow β} (hx : x.Keeps part)
    (hf : ∀ a, CookieFlow.Keeps part (f a)) : CookieFlow.Keeps part (x >>= f) :=
  fun headers m => (part_bind hf headers m).trans (hx headers m)

/-- A check in front of the rest changes nothing by itself. -/
theorem Keeps.guard {p : Prop} [Decidable p] {e : Error} {rest : Unit → CookieFlow α}
    (h : (rest ()).Keeps part) :
    CookieFlow.Keeps part (if p then throw e >>= rest else rest ()) := by
  split
  · exact keeps_throw e
  · exact h

theorem keeps_withCookies {x : Flow α} (h : x.Keeps part) :
    CookieFlow.Keeps part (Flow.withCookies x) := by
  intro headers m
  rw [runOn_withCookies]
  exact h m

/-- Issuing has nothing to do with the store. -/
theorem issuing_memory (x : Token.Issuing α) (headers : Headers) (m : Memory) :
    (CookieFlow.runOn (issuing x) headers m).2.2 = m := by
  rw [runOn_issuing]
  rcases x.run headers with ⟨r, headers'⟩
  cases r <;> rfl

theorem keeps_issuing (x : Token.Issuing α) : CookieFlow.Keeps part (issuing x) :=
  fun headers m => congrArg part (issuing_memory x headers m)

end Keeps

/-- The flow only reads: it ends well on every store and leaves the store as it is. -/
def Reads (x : CookieFlow α) : Prop :=
  ∀ headers m, ∃ a headers', x.runOn headers m = (.ok a, headers', m)

section Reads

theorem reads_pure (a : α) : CookieFlow.Reads (pure a : CookieFlow α) :=
  fun headers _ => ⟨a, headers, rfl⟩

theorem Reads.bind {x : CookieFlow α} {f : α → CookieFlow β} (hx : x.Reads)
    (hf : ∀ a, (f a).Reads) : CookieFlow.Reads (x >>= f) := by
  intro headers m
  obtain ⟨a, headers₁, ha⟩ := hx headers m
  obtain ⟨b, headers₂, hb⟩ := hf a headers₁ m
  exact ⟨b, headers₂, (runOn_bind_ok ha).trans hb⟩

theorem reads_withCookies {x : Flow α} (h : x.Reads) :
    CookieFlow.Reads (Flow.withCookies x) := by
  intro headers m
  obtain ⟨a, ha⟩ := h m
  exact ⟨a, headers, by rw [runOn_withCookies, ha]⟩

/-- Issuing that ends well reads nothing but its settings. -/
theorem reads_issuing {x : Token.Issuing α}
    (h : ∀ headers, ∃ a headers', x.run headers = (.ok a, headers')) : (issuing x).Reads := by
  intro headers m
  obtain ⟨a, headers', ha⟩ := h headers
  exact ⟨a, headers', by rw [runOn_issuing, ha]⟩

end Reads

end CookieFlow

end Gatehouse.Access
