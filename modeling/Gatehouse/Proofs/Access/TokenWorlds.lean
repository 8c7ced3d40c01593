import Gatehouse.Proofs.Access.TokenRequests
import Mathlib.Data.List.Induction
import Mathlib.Logic.Function.Basic

/-!
# API tokens under requests of many users

Any number of users make, list and delete API tokens at the same time, with requests that take turns
after every query.  Whatever the order is, the store has exactly those tokens that their users were
told of and were not told to be deleted.

Main definitions:

- `TokenWorld`: a store and the requests of each user.
- `TokenMove` and `TokenWorld.run`: a request arrives, or one goes on by one query.
- `FreshRequests`: new tokens are given ids and texts of their own.
- `KeepsBooks`: the store has the tokens that users have, with their roles.
- `TokenWorld.Sound`: what holds in every world that comes about.

Main results:

- Theorem `KeepsBooks.made` and theorem `KeepsBooks.removed`: the books after a token was made and
  deleted.
- Theorem `TokenWorld.Sound.after`: every move keeps a world sound.
- Theorem `TokenWorld.sound_run`: every world that comes about is sound.
-/

namespace Gatehouse

/-! ## Lists of which one item changes -/

section Lists

variable {α β : Type} {f : α → Option β} {l : List α} {n : Nat} {a a' : α} {b : β}

/-- What an item gives is what it gave before. -/
theorem filterMap_set_of_eq (here : l[n]? = some a) (same : f a' = f a) :
    (l.set n a').filterMap f = l.filterMap f := by
  induction l generalizing n with
  | nil => rfl
  | cons first rest ih =>
      cases n with
      | zero =>
          obtain rfl : first = a := Option.some.inj here
          rw [List.set_cons_zero, List.filterMap_cons, List.filterMap_cons, same]
      | succ n =>
          rw [List.set_cons_succ, List.filterMap_cons, List.filterMap_cons, ih here]

/-- An item that gave nothing adds what it gives now. -/
theorem mem_filterMap_set (here : l[n]? = some a) (before : f a = none) :
    b ∈ (l.set n a').filterMap f ↔ f a' = some b ∨ b ∈ l.filterMap f := by
  induction l generalizing n with
  | nil => cases here
  | cons first rest ih =>
      cases n with
      | zero =>
          obtain rfl : first = a := Option.some.inj here
          rw [List.set_cons_zero, List.filterMap_cons_none before]
          cases now : f a' with
          | none => simp [now]
          | some b' => simp [now, eq_comm]
      | succ n =>
          have later := ih (n := n) here
          rw [List.set_cons_succ]
          cases given : f first with
          | none => rw [List.filterMap_cons_none given, List.filterMap_cons_none given, later]
          | some b' =>
              rw [List.filterMap_cons_some given, List.filterMap_cons_some given, List.mem_cons,
                List.mem_cons, later, or_left_comm]

/-- No two items of a list give one thing that is given once. -/
theorem eq_of_nodup_filterMap (once : (l.filterMap f).Nodup) (ha : a ∈ l) (ha' : a' ∈ l)
    (given : f a = some b) (given' : f a' = some b) : a = a' := by
  induction l with
  | nil => cases ha
  | cons first rest ih =>
      have again {x : α} (hx : x ∈ rest) (hgiven : f x = some b) : b ∈ rest.filterMap f :=
        List.mem_filterMap.2 ⟨x, hx, hgiven⟩
      rcases List.mem_cons.1 ha with rfl | hrest <;> rcases List.mem_cons.1 ha' with rfl | hrest'
      · rfl
      · rw [List.filterMap_cons_some given, List.nodup_cons] at once
        exact absurd (again hrest' given') once.1
      · rw [List.filterMap_cons_some given', List.nodup_cons] at once
        exact absurd (again hrest given) once.1
      · refine ih ?_ hrest hrest'
        exact once.sublist ((List.sublist_cons_self first rest).filterMap f)

end Lists

namespace Access

open Store (ApiTokenRecord Memory)
open Token (Time)

/-! ## Worlds -/

/-- The tokens that a user was told of, and when they were made, without those that the user was told
to be deleted. -/
def tokensLeft (threads : List TokenThread) : List (GeneratedApiToken × Time) :=
  (threads.filterMap TokenThread.made?).filter fun made =>
    !(threads.filterMap TokenThread.removed?).contains made.1.id

theorem mem_tokensLeft {threads : List TokenThread} {made : GeneratedApiToken × Time} :
    made ∈ tokensLeft threads ↔ made ∈ threads.filterMap TokenThread.made? ∧
      made.1.id ∉ threads.filterMap TokenThread.removed? := by
  simp [tokensLeft]

/-- A store and the requests of each user, in the order in which they arrived. -/
structure TokenWorld where
  memory : Memory
  threads : String → List TokenThread

/-- A request arrives, or a request of a user goes on by one query. -/
inductive TokenMove where
  | arrive (r : TokenRequest)
  | serve (userId : String) (n : Nat)

namespace TokenMove

/-- The user whose request it is. -/
def userId : TokenMove → String
  | .arrive r => r.userId
  | .serve userId _ => userId

/-- The request that arrives. -/
def request? : TokenMove → Option TokenRequest
  | .arrive r => some r
  | .serve .. => none

end TokenMove

namespace TokenWorld

/-- No request has arrived yet. -/
def start (m : Memory) : TokenWorld := ⟨m, fun _ => []⟩

/-- The world after a query of a request, with what the request and the store have become. -/
def answered (w : TokenWorld) (userId : String) (n : Nat) (next : TokenThread × Memory) :
    TokenWorld where
  memory := next.2
  threads := Function.update w.threads userId ((w.threads userId).set n next.1)

/-- The world after a move.  Requests that there are not, and requests that have been served, do not
go on. -/
def after (w : TokenWorld) : TokenMove → TokenWorld
  | .arrive r =>
    { w with threads := Function.update w.threads r.userId (w.threads r.userId ++ [.start r]) }
  | .serve userId n =>
    match (w.threads userId)[n]? with
    | some x => w.answered userId n (x.ask w.memory)
    | none => w

/-- The world after some moves. -/
def run (w : TokenWorld) (moves : List TokenMove) : TokenWorld :=
  moves.foldl after w

/-- The ids that are given to new tokens of a user. -/
def newIds (w : TokenWorld) (userId : String) : List String :=
  (w.threads userId).filterMap (·.request.newId?)

/-- The tokens that a user has. -/
def left (w : TokenWorld) (userId : String) : List (GeneratedApiToken × Time) :=
  tokensLeft (w.threads userId)

variable {w : TokenWorld} {m : Memory} {moves : List TokenMove} {move : TokenMove}
  {x : TokenThread} {n : Nat} {u v id : String}

theorem run_concat (w : TokenWorld) (moves : List TokenMove) (move : TokenMove) :
    w.run (moves ++ [move]) = (w.run moves).after move :=
  List.foldl_concat ..

theorem after_serve (here : (w.threads u)[n]? = some x) :
    w.after (.serve u n) = w.answered u n (x.ask w.memory) := by
  rw [after, here]

section Answered

variable {β : Type} {f : TokenThread → Option β} {b : β} {x' y : TokenThread} {m' : Memory}

theorem threads_answered_of_ne (other : v ≠ u) :
    (w.answered u n (x', m')).threads v = w.threads v :=
  Function.update_of_ne other _ _

theorem threads_answered_self :
    (w.answered u n (x', m')).threads u = (w.threads u).set n x' :=
  Function.update_self ..

theorem mem_threads_answered (h : y ∈ (w.answered u n (x', m')).threads v) :
    v = u ∧ y = x' ∨ y ∈ w.threads v := by
  by_cases same : v = u
  · subst same
    rw [threads_answered_self] at h
    rcases List.mem_or_eq_of_mem_set h with old | new
    · exact .inr old
    · exact .inl ⟨rfl, new⟩
  · rw [threads_answered_of_ne same] at h
    exact .inr h

/-- What the request gives is what it gave before. -/
theorem filterMap_answered_of_eq (here : (w.threads u)[n]? = some x) (same : f x' = f x) :
    ((w.answered u n (x', m')).threads v).filterMap f = (w.threads v).filterMap f := by
  by_cases own : v = u
  · subst own
    rw [threads_answered_self, filterMap_set_of_eq here same]
  · rw [threads_answered_of_ne own]

/-- A query that makes and deletes nothing leaves the tokens that users have. -/
theorem left_answered_of_eq (here : (w.threads u)[n]? = some x) (made : x'.made? = x.made?)
    (removed : x'.removed? = x.removed?) : (w.answered u n (x', m')).left = w.left := by
  funext v
  rw [left, left, tokensLeft, tokensLeft, filterMap_answered_of_eq here made,
    filterMap_answered_of_eq here removed]

/-- A request that gave nothing adds what it gives now. -/
theorem mem_filterMap_answered (here : (w.threads u)[n]? = some x) (before : f x = none) :
    b ∈ ((w.answered u n (x', m')).threads v).filterMap f ↔
      v = u ∧ f x' = some b ∨ b ∈ (w.threads v).filterMap f := by
  by_cases own : v = u
  · subst own
    rw [threads_answered_self, mem_filterMap_set here before]
    simp
  · rw [threads_answered_of_ne own]
    simp [own]

end Answered

/-- A move concerns the requests of one user. -/
theorem threads_after_of_ne (other : u ≠ move.userId) : (w.after move).threads u = w.threads u := by
  cases move with
  | arrive r => exact Function.update_of_ne other _ _
  | serve v n =>
      rw [after]
      split
      · exact Function.update_of_ne other _ _
      · rfl

/-! ## Ids and texts that are given once -/

end TokenWorld

/-- The ids and the texts of new tokens are given once, and the hash does not collide on the texts. -/
structure FreshRequests (requests : List TokenRequest) : Prop where
  ids : (requests.filterMap TokenRequest.newId?).Nodup
  texts : (requests.filterMap TokenRequest.newText?).Nodup
  apart : ∀ text ∈ requests.filterMap TokenRequest.newText?,
    ∀ other ∈ requests.filterMap TokenRequest.newText?,
      Token.ApiToken.digest text = Token.ApiToken.digest other → text = other

theorem FreshRequests.sublist {requests requests' : List TokenRequest}
    (fresh : FreshRequests requests) (part : requests'.Sublist requests) :
    FreshRequests requests' where
  ids := fresh.ids.sublist (part.filterMap _)
  texts := fresh.texts.sublist (part.filterMap _)
  apart text htext other hother := fresh.apart text ((part.filterMap _).subset htext) other
    ((part.filterMap _).subset hother)

/-- What is given once in a run is given once in its beginning. -/
theorem FreshRequests.of_append {moves later : List TokenMove}
    (fresh : FreshRequests ((moves ++ later).filterMap TokenMove.request?)) :
    FreshRequests (moves.filterMap TokenMove.request?) :=
  fresh.sublist ((List.sublist_append_left moves later).filterMap _)

namespace TokenWorld

/-- The requests of a user are those that have arrived. -/
theorem requests_run (w : TokenWorld) (moves : List TokenMove) (u : String) :
    ((w.run moves).threads u).map (·.request) = (w.threads u).map (·.request) ++
      (moves.filterMap TokenMove.request?).filter (·.userId == u) := by
  induction moves generalizing w with
  | nil => simp [run]
  | cons move moves ih =>
      refine (ih (w.after move)).trans ?_
      cases move with
      | arrive r =>
          have arrives : TokenMove.request? (.arrive r) = some r := rfl
          rw [List.filterMap_cons_some arrives]
          by_cases same : r.userId = u
          · subst same
            simp [after, TokenThread.start]
          · have other : u ≠ (TokenMove.arrive r).userId := Ne.symm same
            rw [threads_after_of_ne other, List.filter_cons_of_neg (by simpa using same)]
      | serve v n =>
          have nothing : TokenMove.request? (.serve v n) = none := rfl
          rw [List.filterMap_cons_none nothing]
          congr 1
          cases here : (w.threads v)[n]? with
          | none => rw [after, here]
          | some x =>
              have kept : ((w.answered v n (x.ask w.memory)).threads u).filterMap
                  (fun y => some y.request) = (w.threads u).filterMap fun y => some y.request :=
                filterMap_answered_of_eq here (congrArg some (x.request_ask w.memory))
              rw [after_serve here]
              simpa [← Function.comp_def] using kept

/-- The requests of a world have users of their own, and ids and texts of their own. -/
structure Apart (w : TokenWorld) : Prop where
  own : ∀ u, ∀ x ∈ w.threads u, x.request.userId = u
  once : ∀ u, (w.newIds u).Nodup
  ids : ∀ u v id, id ∈ w.newIds u → id ∈ w.newIds v → u = v
  texts : ∀ u v, ∀ x ∈ w.threads u, ∀ y ∈ w.threads v, ∀ text other,
    x.request.newText? = some text → y.request.newText? = some other →
      Token.ApiToken.digest text = Token.ApiToken.digest other → x.request = y.request

/-- What is given once to the requests that arrive is given once in the world. -/
theorem apart_run (fresh : FreshRequests (moves.filterMap TokenMove.request?)) :
    ((start m).run moves).Apart := by
  have requests (u : String) : (((start m).run moves).threads u).map (·.request) =
      (moves.filterMap TokenMove.request?).filter (·.userId == u) := by
    rw [requests_run]
    rfl
  have arrived (u : String) (x : TokenThread) (hx : x ∈ ((start m).run moves).threads u) :
      x.request ∈ moves.filterMap TokenMove.request? ∧ x.request.userId = u := by
    have listed : x.request ∈ (((start m).run moves).threads u).map (·.request) :=
      List.mem_map_of_mem hx
    rw [requests, List.mem_filter, beq_iff_eq] at listed
    exact listed
  refine ⟨fun u x hx => (arrived u x hx).2, fun u => ?_, ?_, ?_⟩
  · have ids : ((start m).run moves).newIds u =
        ((moves.filterMap TokenMove.request?).filter (·.userId == u)).filterMap
          TokenRequest.newId? := by
      rw [← requests, List.filterMap_map]
      rfl
    rw [ids]
    exact fresh.ids.sublist (List.filter_sublist.filterMap _)
  · intro u v id hu hv
    obtain ⟨x, hx, given⟩ := List.mem_filterMap.1 hu
    obtain ⟨y, hy, given'⟩ := List.mem_filterMap.1 hv
    have same : x.request = y.request :=
      eq_of_nodup_filterMap fresh.ids (arrived u x hx).1 (arrived v y hy).1 given given'
    rw [← (arrived u x hx).2, same, (arrived v y hy).2]
  · intro u v x hx y hy text other given given' digests
    have hx := (arrived u x hx).1
    have hy := (arrived v y hy).1
    obtain rfl : text = other := fresh.apart text (List.mem_filterMap.2 ⟨_, hx, given⟩) other
      (List.mem_filterMap.2 ⟨_, hy, given'⟩) digests
    exact eq_of_nodup_filterMap fresh.texts hx hy given given'

end TokenWorld

/-! ## The books of the store -/

/-- The store has the tokens that users have and no others, each with its roles. -/
structure KeepsBooks (m : Memory) (left : String → List (GeneratedApiToken × Time)) : Prop where
  tokens : ∀ record, record ∈ m.apiTokens.data ↔
    ∃ u, ∃ made ∈ left u, record = made.1.record u made.2
  roles : ∀ id roleIds, m.apiTokenRoles.find? id = some roleIds ↔
    ∃ u, ∃ made ∈ left u, made.1.id = id ∧ made.1.roles.map (·.id) = roleIds

section Books

variable {m : Memory} {left left' : String → List (GeneratedApiToken × Time)}
  {g : GeneratedApiToken} {now : Time} {u tokenId : String}

/-- A token that is put in under a new id is one more that its user has. -/
theorem KeepsBooks.made (books : KeepsBooks m left)
    (new : ∀ v, ∀ made ∈ left v, made.1.id ≠ g.id)
    (more : ∀ v made, made ∈ left' v ↔ v = u ∧ made = (g, now) ∨ made ∈ left v) :
    KeepsBooks (m.withApiToken (g.record u now) (g.roles.map (·.id))) left' where
  tokens record := by
    rw [Memory.mem_withApiToken, books.tokens]
    constructor
    · rintro (rfl | ⟨⟨v, made, had, rfl⟩, -⟩)
      · exact ⟨u, (g, now), (more u _).2 (.inl ⟨rfl, rfl⟩), rfl⟩
      · exact ⟨v, made, (more v made).2 (.inr had), rfl⟩
    · rintro ⟨v, made, has, rfl⟩
      rcases (more v made).1 has with ⟨rfl, rfl⟩ | had
      · exact .inl rfl
      · exact .inr ⟨⟨v, made, had, rfl⟩, new v made had⟩
  roles id roleIds := by
    rw [Memory.find?_withApiToken_roles]
    have named : (g.record u now).id = g.id := rfl
    by_cases same : id = g.id
    · rw [if_pos (same.trans named.symm), Option.some.injEq]
      constructor
      · rintro rfl
        exact ⟨u, (g, now), (more u _).2 (.inl ⟨rfl, rfl⟩), same.symm, rfl⟩
      · rintro ⟨v, made, has, hid, rfl⟩
        rcases (more v made).1 has with ⟨rfl, rfl⟩ | had
        · rfl
        · exact absurd (hid.trans same) (new v made had)
    · rw [if_neg (fun h => same (h.trans named)), books.roles]
      constructor
      · rintro ⟨v, made, had, hid, rfl⟩
        exact ⟨v, made, (more v made).2 (.inr had), hid, rfl⟩
      · rintro ⟨v, made, has, hid, rfl⟩
        rcases (more v made).1 has with ⟨rfl, rfl⟩ | had
        · exact absurd hid.symm same
        · exact ⟨v, made, had, hid, rfl⟩

/-- A token that is taken out is one less that its user has. -/
theorem KeepsBooks.removed (books : KeepsBooks m left)
    (less : ∀ v made, made ∈ left' v ↔ made ∈ left v ∧ made.1.id ≠ tokenId) :
    KeepsBooks (m.withoutApiToken tokenId) left' where
  tokens record := by
    rw [Memory.mem_withoutApiToken, books.tokens]
    constructor
    · rintro ⟨⟨v, made, had, rfl⟩, other⟩
      exact ⟨v, made, (less v made).2 ⟨had, other⟩, rfl⟩
    · rintro ⟨v, made, has, rfl⟩
      obtain ⟨had, other⟩ := (less v made).1 has
      exact ⟨⟨v, made, had, rfl⟩, other⟩
  roles id roleIds := by
    rw [Memory.find?_withoutApiToken_roles]
    by_cases same : id = tokenId
    · rw [if_pos same]
      refine ⟨nofun, ?_⟩
      rintro ⟨v, made, has, hid, -⟩
      exact absurd (hid.trans same) ((less v made).1 has).2
    · rw [if_neg same, books.roles]
      constructor
      · rintro ⟨v, made, had, hid, rfl⟩
        exact ⟨v, made, (less v made).2 ⟨had, hid ▸ same⟩, hid, rfl⟩
      · rintro ⟨v, made, has, hid, rfl⟩
        exact ⟨v, made, ((less v made).1 has).1, hid, rfl⟩

end Books

/-! ## What holds in every world -/

namespace TokenWorld

variable {w : TokenWorld} {m : Memory} {moves : List TokenMove} {x : TokenThread} {n : Nat}
  {u v : String} {made : GeneratedApiToken × Time}

/-- What holds in every world that comes about from the store `m`. -/
structure Sound (m : Memory) (w : TokenWorld) : Prop where
  same : m.SameRecords w.memory
  stage : ∀ u, ∀ x ∈ w.threads u, x.Stage m (w.newIds u)
  books : KeepsBooks w.memory w.left
  removed : ∀ u, ∀ id ∈ (w.threads u).filterMap TokenThread.removed?,
    ∃ made ∈ (w.threads u).filterMap TokenThread.made?, made.1.id = id

/-- A token that was made has one of the ids that were given to its user. -/
theorem Sound.id_mem (sound : Sound m w)
    (hmade : made ∈ (w.threads u).filterMap TokenThread.made?) : made.1.id ∈ w.newIds u := by
  obtain ⟨y, hy, given⟩ := List.mem_filterMap.1 hmade
  exact List.mem_filterMap.2 ⟨y, hy, ((sound.stage u y hy).given given).1⟩

theorem Sound.id_mem_of_left (sound : Sound m w) (has : made ∈ w.left u) :
    made.1.id ∈ w.newIds u :=
  sound.id_mem (mem_tokensLeft.1 has).1

/-- The records of a user are those of the tokens that the user has. -/
theorem Sound.mem_data_iff {record : ApiTokenRecord} (sound : Sound m w)
    (owner : record.userId = u) :
    record ∈ w.memory.apiTokens.data ↔ ∃ made ∈ w.left u, record = made.1.record u made.2 := by
  rw [sound.books.tokens]
  constructor
  · rintro ⟨v, made, has, rfl⟩
    obtain rfl : v = u := owner
    exact ⟨made, has, rfl⟩
  · rintro ⟨made, has, rfl⟩
    exact ⟨u, made, has, rfl⟩

/-- The records of a user have ids that were given to the user. -/
theorem Sound.id_mem_of_stored {record : ApiTokenRecord} (sound : Sound m w)
    (stored : record ∈ w.memory.apiTokens.data) (owner : record.userId = u) :
    record.id ∈ w.newIds u := by
  obtain ⟨made, has, rfl⟩ := (sound.mem_data_iff owner).1 stored
  exact sound.id_mem_of_left has

/-- A user owns the tokens that the user has. -/
theorem Sound.owns_iff {id : String} (sound : Sound m w) :
    w.memory.ownsApiToken u id = true ↔ ∃ made ∈ w.left u, made.1.id = id := by
  rw [Memory.ownsApiToken_iff]
  constructor
  · rintro ⟨record, found, owner⟩
    have named : record.id = id := Register.nameOf_of_find? found
    obtain ⟨made, has, rfl⟩ := (sound.mem_data_iff owner).1
      (Register.mem_data_iff.2 (named ▸ found))
    exact ⟨made, has, named⟩
  · rintro ⟨made, has, rfl⟩
    have stored : made.1.record u made.2 ∈ w.memory.apiTokens.data :=
      (sound.mem_data_iff rfl).2 ⟨made, has, rfl⟩
    exact ⟨_, Register.mem_data_iff.1 stored, rfl⟩

/-- A request that arrives has made and deleted nothing yet. -/
theorem made_after_arrive (w : TokenWorld) (r : TokenRequest) (u : String) :
    ((w.after (.arrive r)).threads u).filterMap TokenThread.made? =
        (w.threads u).filterMap TokenThread.made? ∧
      ((w.after (.arrive r)).threads u).filterMap TokenThread.removed? =
        (w.threads u).filterMap TokenThread.removed? := by
  by_cases here : u = r.userId
  · subst here
    have unmade := TokenThread.made?_start r
    simp [after, unmade.1, unmade.2]
  · rw [threads_after_of_ne here]
    exact ⟨rfl, rfl⟩

theorem left_after_arrive (w : TokenWorld) (r : TokenRequest) :
    (w.after (.arrive r)).left = w.left := by
  funext u
  obtain ⟨made, removed⟩ := made_after_arrive w r u
  rw [left, left, tokensLeft, tokensLeft, made, removed]

/-- A request that arrives keeps the world sound. -/
theorem Sound.arrive (sound : Sound m w) (r : TokenRequest) : Sound m (w.after (.arrive r)) := by
  refine ⟨sound.same, fun u x hx => ?_, ?_, fun u id hid => ?_⟩
  · by_cases here : u = r.userId
    · subst here
      have now : (w.after (.arrive r)).threads r.userId =
          w.threads r.userId ++ [.start r] := Function.update_self ..
      rw [newIds, now, List.filterMap_append]
      rw [now] at hx
      rcases List.mem_append.1 hx with old | new
      · exact (sound.stage _ x old).mono (List.subset_append_left _ _)
      · obtain rfl := List.mem_singleton.1 new
        exact TokenThread.stage_start m _ r
    · rw [newIds, threads_after_of_ne here]
      rw [threads_after_of_ne here] at hx
      exact sound.stage u x hx
  · rw [left_after_arrive]
    exact sound.books
  · rw [(made_after_arrive w r u).2] at hid
    rw [(made_after_arrive w r u).1]
    exact sound.removed u id hid

section Serve

variable {x' : TokenThread} {m' : Memory} {g : GeneratedApiToken} {now : Token.Time}

/-- The id of a token that is being made is not the id of another one. -/
theorem Sound.id_ne (sound : Sound m w) (apart : w.Apart) (here : (w.threads u)[n]? = some x)
    (given : x.request.newId? = some g.id) (unmade : x.made? = none)
    (hmade : made ∈ (w.threads v).filterMap TokenThread.made?) : made.1.id ≠ g.id := by
  intro same
  have hx := List.mem_of_getElem? here
  obtain ⟨y, hy, hmade'⟩ := List.mem_filterMap.1 hmade
  have given' := ((sound.stage v y hy).given hmade').1
  obtain rfl : v = u := apart.ids v u g.id (same ▸ sound.id_mem hmade)
    (List.mem_filterMap.2 ⟨x, hx, given⟩)
  -- the request that was told of the other token is this one, which has been told of none
  obtain rfl : y = x := eq_of_nodup_filterMap (apart.once v) hy hx (same ▸ given') given
  rw [unmade] at hmade'
  cases hmade'

/-- What was deleted after a query of a request was made before. -/
theorem Sound.removed_answered (sound : Sound m w) (apart : w.Apart)
    (here : (w.threads u)[n]? = some x) (served : TokenThread.Served w.memory x x' m') :
    ∀ v, ∀ id ∈ ((w.answered u n (x', m')).threads v).filterMap TokenThread.removed?,
      ∃ made ∈ ((w.answered u n (x', m')).threads v).filterMap TokenThread.made?,
        made.1.id = id := by
  intro v id hid
  have owner := apart.own u x (List.mem_of_getElem? here)
  cases served with
  | reads made removed =>
      rw [filterMap_answered_of_eq here removed] at hid
      rw [filterMap_answered_of_eq here made]
      exact sound.removed v id hid
  | makes unmade made removed =>
      rw [filterMap_answered_of_eq here removed] at hid
      obtain ⟨other, had, same⟩ := sound.removed v id hid
      exact ⟨other, (mem_filterMap_answered here unmade).2 (.inr had), same⟩
  | removes kept removed made owns =>
      rw [filterMap_answered_of_eq here made]
      rcases (mem_filterMap_answered here kept).1 hid with ⟨rfl, same⟩ | gone
      · obtain rfl := Option.some.inj (removed.symm.trans same)
        obtain ⟨mine, has, same'⟩ := sound.owns_iff.1 owns
        rw [owner] at has
        exact ⟨mine, (mem_tokensLeft.1 has).1, same'⟩
      · exact sound.removed v id gone

/-- A user who is told of a new token has one more. -/
theorem Sound.mem_left_made (sound : Sound m w) (apart : w.Apart)
    (here : (w.threads u)[n]? = some x) (given : x.request.newId? = some g.id)
    (unmade : x.made? = none) (told : x'.made? = some (g, now))
    (removed : x'.removed? = x.removed?) :
    made ∈ (w.answered u n (x', m')).left v ↔ v = u ∧ made = (g, now) ∨ made ∈ w.left v := by
  rw [left, mem_tokensLeft, mem_filterMap_answered here unmade,
    filterMap_answered_of_eq here removed, left, mem_tokensLeft, told, Option.some.injEq]
  constructor
  · rintro ⟨⟨own, same⟩ | had, kept⟩
    · exact .inl ⟨own, same.symm⟩
    · exact .inr ⟨had, kept⟩
  · rintro (⟨rfl, rfl⟩ | ⟨had, kept⟩)
    · -- nobody was told that the token is deleted, as that would have been told of an older one
      refine ⟨.inl ⟨rfl, rfl⟩, fun gone => ?_⟩
      obtain ⟨other, had, same⟩ := sound.removed v g.id gone
      exact sound.id_ne apart here given unmade had same
    · exact ⟨.inr had, kept⟩

/-- A user who is told that a token is deleted has one less. -/
theorem Sound.mem_left_removed {tokenId : String} (sound : Sound m w) (apart : w.Apart)
    (here : (w.threads u)[n]? = some x) (same : x'.made? = x.made?) (kept : x.removed? = none)
    (removed : x'.removed? = some tokenId) (owns : w.memory.ownsApiToken u tokenId = true) :
    made ∈ (w.answered u n (x', m')).left v ↔ made ∈ w.left v ∧ made.1.id ≠ tokenId := by
  rw [left, mem_tokensLeft, filterMap_answered_of_eq here same, mem_filterMap_answered here kept,
    left, mem_tokensLeft, removed, Option.some.injEq]
  constructor
  · rintro ⟨had, still⟩
    refine ⟨⟨had, fun gone => still (.inr gone)⟩, fun named => still (.inl ⟨?_, named.symm⟩)⟩
    -- the id is one of those that were given to the owner
    obtain ⟨mine, has, named'⟩ := sound.owns_iff.1 owns
    exact apart.ids v u tokenId (named ▸ sound.id_mem had) (named' ▸ sound.id_mem_of_left has)
  · rintro ⟨⟨had, still⟩, other⟩
    refine ⟨had, ?_⟩
    rintro (⟨-, named⟩ | gone)
    · exact other named.symm
    · exact still gone

/-- The store keeps the books in a query of a request. -/
theorem Sound.books_answered (sound : Sound m w) (apart : w.Apart)
    (here : (w.threads u)[n]? = some x) (stage : x'.Stage m (w.newIds u))
    (named : x'.request = x.request) (served : TokenThread.Served w.memory x x' m') :
    KeepsBooks m' (w.answered u n (x', m')).left := by
  have owner := apart.own u x (List.mem_of_getElem? here)
  cases served with
  | reads made removed =>
      rw [left_answered_of_eq here made removed]
      exact sound.books
  | @makes g now unmade made removed =>
      have given : x.request.newId? = some g.id := named ▸ (stage.given made).1
      rw [owner]
      refine sound.books.made (fun v other had => ?_) fun v other => ?_
      · exact sound.id_ne apart here given unmade (mem_tokensLeft.1 had).1
      · exact sound.mem_left_made apart here given unmade made removed
  | removes kept removed made owns =>
      rw [owner] at owns
      exact sound.books.removed fun v other =>
        sound.mem_left_removed apart here made kept removed owns

/-- A query of a request keeps the world sound. -/
theorem Sound.serve (sound : Sound m w) (apart : w.Apart) (u : String) (n : Nat) :
    Sound m (w.after (.serve u n)) := by
  cases here : (w.threads u)[n]? with
  | none =>
      rw [after, here]
      exact sound
  | some x =>
      rw [after_serve here]
      have hx := List.mem_of_getElem? here
      have own : ∀ record ∈ w.memory.apiTokens.data, record.userId = x.request.userId →
          record.id ∈ w.newIds u := by
        intro record stored owner
        exact sound.id_mem_of_stored stored (owner.trans (apart.own u x hx))
      obtain ⟨stage, served⟩ := TokenThread.served sound.same own (sound.stage u x hx)
      have named := x.request_ask w.memory
      have records : m.SameRecords (x.ask w.memory).2 :=
        sound.same.trans (x.sameRecords_ask w.memory)
      generalize x.ask w.memory = next at stage served named records ⊢
      obtain ⟨x', m'⟩ := next
      have newIds (v : String) : (w.answered u n (x', m')).newIds v = w.newIds v :=
        filterMap_answered_of_eq here (congrArg TokenRequest.newId? named)
      refine ⟨records, fun v y hy => ?_, sound.books_answered apart here stage named served, ?_⟩
      · rw [newIds]
        rcases mem_threads_answered hy with ⟨rfl, rfl⟩ | old
        · exact stage
        · exact sound.stage v y old
      · exact sound.removed_answered apart here served

end Serve

/-- Every move keeps a world sound. -/
theorem Sound.after (sound : Sound m w) (apart : w.Apart) (move : TokenMove) :
    Sound m (w.after move) := by
  cases move with
  | arrive r => exact sound.arrive r
  | serve u n => exact sound.serve apart u n

/-- Nobody has a token at first. -/
theorem sound_start (bare : m.HasNoApiTokens) : Sound m (start m) where
  same := .refl m
  stage u x hx := absurd hx List.not_mem_nil
  books := ⟨by simp [start, left, tokensLeft, bare.1], by simp [start, left, tokensLeft, bare.2]⟩
  removed u id hid := absurd hid List.not_mem_nil

/-- Every world that comes about is sound. -/
theorem sound_run (bare : m.HasNoApiTokens)
    (fresh : FreshRequests (moves.filterMap TokenMove.request?)) :
    Sound m ((start m).run moves) := by
  induction moves using List.reverseRecOn with
  | nil => exact sound_start bare
  | append_singleton moves move ih =>
      rw [run_concat]
      exact (ih fresh.of_append).after (apart_run fresh.of_append) move

end TokenWorld

end Access

end Gatehouse
