import Gatehouse.Proofs.Access.Lifecycle
import Gatehouse.Proofs.Access.TokenWorlds

/-!
# API tokens of different users

What users see of API tokens is a function of what they were told themselves.  So a user who makes,
lists and deletes tokens sees the same, whatever other users do with theirs.

Main definitions:

- `TokenMove.without`: a run without the requests of a user.
- `TokenWorld.Lists`: what a listing has to be.
- `TokenWorld.Alike`: a user sees the same in two worlds.

Main results:

- Theorem `TokenWorld.Sound.ask_eq`: in worlds that have told a user the same, the next query of each
  of the user's requests has the same answer.
- Theorem `TokenWorld.threads_run_without`: the requests of a user come as far and are told the same
  without those of another user.
- Theorem `TokenWorld.Sound.lists`: what the store lists of a user are the tokens that the user has.
- Theorem `TokenWorld.undisturbed_run`: what others do while a listing is served does not matter.
- Theorem `TokenWorld.noninterference`: all together.
-/

namespace Gatehouse.Store.Memory

/-- Stores with the same records have the same active users. -/
theorem SameRecords.activeUser?_eq {m m' : Memory} (same : m.SameRecords m') (userId : String) :
    m'.activeUser? userId = m.activeUser? userId := by
  have user : m'.withEmail = m.withEmail := by
    funext user
    rw [withEmail, withEmail, primaryEmail?, primaryEmail?, same.emails]
  rw [activeUser?, activeUser?, same.users, user]

end Gatehouse.Store.Memory

namespace Gatehouse.Access

open Store (Action ApiTokenRecord Memory)
open Token (Time)

namespace TokenWorld

variable {s : Service} {w w' : TokenWorld} {m : Memory} {moves : List TokenMove}
  {move : TokenMove} {x : TokenThread} {a b id text : String} {p : Principal}

/-! ## What the store has of a user -/

/-- The roles of a token, under an id that was given to its user. -/
theorem Sound.roles_iff {roleIds : List String} (sound : Sound m w) (apart : w.Apart)
    (given : id ∈ w.newIds b) :
    w.memory.apiTokenRoles.find? id = some roleIds ↔
      ∃ made ∈ w.left b, made.1.id = id ∧ made.1.roles.map (·.id) = roleIds := by
  rw [sound.books.roles]
  constructor
  · rintro ⟨u, made, has, rfl, rfl⟩
    obtain rfl : u = b := apart.ids u b _ (sound.id_mem_of_left has) given
    exact ⟨made, has, rfl, rfl⟩
  · rintro ⟨made, has, named, known⟩
    exact ⟨b, made, has, named, known⟩

/-- A record with the digest of a text is that of the request that the text was given to. -/
theorem Sound.given_of_digest {record : ApiTokenRecord} (sound : Sound m w) (apart : w.Apart)
    (hx : x ∈ w.threads b) (given : x.request.newText? = some text)
    (stored : record ∈ w.memory.apiTokens.data)
    (digested : record.digest = Token.ApiToken.digest text) :
    record.userId = b ∧ x.request.newId? = some record.id := by
  obtain ⟨made, has, same⟩ := (sound.mem_data_iff rfl).1 stored
  obtain ⟨y, hy, told⟩ := List.mem_filterMap.1 (mem_tokensLeft.1 has).1
  obtain ⟨hid, htext, -⟩ := (sound.stage _ y hy).given told
  rw [same] at digested
  -- no other request was given a text with this digest
  have request : y.request = x.request := apart.texts _ b y hy x hx _ _ htext given digested
  constructor
  · rw [← apart.own _ y hy, request, apart.own b x hx]
  · rw [← request, hid, same]
    rfl

/-- The record with the digest of a text that was given to a user. -/
theorem Sound.find?_digest_iff {record : ApiTokenRecord} (sound : Sound m w) (apart : w.Apart)
    (hx : x ∈ w.threads b) (given : x.request.newText? = some text) :
    w.memory.apiTokens.data.find? (·.digest == Token.ApiToken.digest text) = some record ↔
      record.userId = b ∧ record ∈ w.memory.apiTokens.data ∧
        record.digest = Token.ApiToken.digest text := by
  rw [Memory.find?_digest_eq_some]
  · constructor
    · rintro ⟨stored, digested⟩
      exact ⟨(sound.given_of_digest apart hx given stored digested).1, stored, digested⟩
    · exact And.right
  · intro r stored t stored' digested digested'
    have id := (sound.given_of_digest apart hx given stored digested).2
    have id' := (sound.given_of_digest apart hx given stored' digested').2
    exact Register.eq_of_nameOf_eq stored stored' (Option.some.inj (id.symm.trans id'))

/-! ## Two worlds in which a user has the same tokens -/

section Alike

variable (sound : Sound m w) (sound' : Sound m w') (alike : w.left b = w'.left b)

include sound sound' alike

/-- The stores have the same records of the user. -/
theorem Sound.mem_data_congr {record : ApiTokenRecord} (owner : record.userId = b) :
    record ∈ w.memory.apiTokens.data ↔ record ∈ w'.memory.apiTokens.data := by
  rw [sound.mem_data_iff owner, sound'.mem_data_iff owner, alike]

theorem Sound.apiTokensOf_eq : w.memory.apiTokensOf b = w'.memory.apiTokensOf b :=
  Memory.apiTokensOf_congr fun _ owner => sound.mem_data_congr sound' alike owner

theorem Sound.ownsApiToken_eq (id : String) :
    w.memory.ownsApiToken b id = w'.memory.ownsApiToken b id := by
  rw [Bool.eq_iff_iff, sound.owns_iff, sound'.owns_iff, alike]

/-- The roles of the user's tokens are the same. -/
theorem Sound.rolesOf_eq (apart : w.Apart) (apart' : w'.Apart) (given : id ∈ w.newIds b)
    (given' : id ∈ w'.newIds b) :
    w.memory.rolesOf (w.memory.apiTokenRoles.find? id) =
      w'.memory.rolesOf (w'.memory.apiTokenRoles.find? id) := by
  have found : w.memory.apiTokenRoles.find? id = w'.memory.apiTokenRoles.find? id := by
    ext roleIds
    rw [sound.roles_iff apart given, sound'.roles_iff apart' given', alike]
  rw [Memory.rolesOf, Memory.rolesOf, found, sound.same.roles, sound'.same.roles]

/-- The roles of a record of the user are the same. -/
theorem Sound.rolesOf_eq_of_stored {record : ApiTokenRecord} (apart : w.Apart) (apart' : w'.Apart)
    (stored : record ∈ w.memory.apiTokens.data) (owner : record.userId = b) :
    w.memory.rolesOf (w.memory.apiTokenRoles.find? record.id) =
      w'.memory.rolesOf (w'.memory.apiTokenRoles.find? record.id) :=
  sound.rolesOf_eq sound' alike apart apart' (sound.id_mem_of_stored stored owner)
    (sound'.id_mem_of_stored ((sound.mem_data_congr sound' alike owner).1 stored) owner)

/-- The user is told the same in a listing. -/
theorem Sound.listing_eq (apart : w.Apart) (apart' : w'.Apart) :
    (w.memory.apiTokensOf b).map (summaryIn w.memory) =
      (w'.memory.apiTokensOf b).map (summaryIn w'.memory) := by
  rw [← sound.apiTokensOf_eq sound' alike]
  refine List.map_congr_left fun t listed => ?_
  obtain ⟨stored, owner⟩ := Memory.mem_apiTokensOf.1 listed
  exact congrArg (ApiTokenSummary.ofRecord t)
    (sound.rolesOf_eq_of_stored sound' alike apart apart' stored owner)

end Alike

/-- The text of a new token is told to be one. -/
theorem ofText_newText {r : TokenRequest} (given : r.newText? = some text) :
    PresentedToken.ofText text = .api text := by
  cases r with
  | generate p o wanted expiresAt description =>
      obtain rfl := Option.some.inj given
      exact PresentedToken.ofText_ofRandom _
  | list p => cases given
  | remove p tokenId => cases given

/-- The texts that were given to the user are accepted for the same. -/
theorem Sound.authenticate_eq (sound : Sound m w) (sound' : Sound m w') (apart : w.Apart)
    (apart' : w'.Apart) (alike : w.threads b = w'.threads b) (hx : x ∈ w.threads b)
    (given : x.request.newText? = some text) (s : Service) (now : Time) :
    ((s.authenticate now (.ofText text)).runOn w.memory).1 =
      ((s.authenticate now (.ofText text)).runOn w'.memory).1 := by
  have has : w.left b = w'.left b := congrArg tokensLeft alike
  have found : w.memory.apiTokens.data.find? (·.digest == Token.ApiToken.digest text) =
      w'.memory.apiTokens.data.find? (·.digest == Token.ApiToken.digest text) := by
    ext record
    rw [sound.find?_digest_iff apart hx given, sound'.find?_digest_iff apart' (alike ▸ hx) given]
    refine and_congr_right fun owner => ?_
    rw [sound.mem_data_congr sound' has owner]
  rw [ofText_newText given, Service.authenticate, Service.runOn_authenticateApi,
    Service.runOn_authenticateApi, ← found]
  cases stored : w.memory.apiTokens.data.find? (·.digest == Token.ApiToken.digest text) with
  | none => rfl
  | some record =>
      obtain ⟨owner, known, -⟩ := (sound.find?_digest_iff apart hx given).1 stored
      have roles := sound.rolesOf_eq_of_stored sound' has apart apart' known owner
      have user : w.memory.activeUser? record.userId = w'.memory.activeUser? record.userId := by
        rw [sound.same.activeUser?_eq, sound'.same.activeUser?_eq]
      simp only [roles, user]

/-- In worlds that have told a user the same, the next query of each of the user's requests has the
same answer. -/
theorem Sound.ask_eq (sound : Sound m w) (sound' : Sound m w') (apart : w.Apart)
    (apart' : w'.Apart) (alike : w.threads b = w'.threads b) (hx : x ∈ w.threads b) :
    (x.ask w.memory).1 = (x.ask w'.memory).1 := by
  have has : w.left b = w'.left b := congrArg tokensLeft alike
  have owner := apart.own b x hx
  have stage := sound.stage b x hx
  cases stage with
  | choosing => rw [TokenThread.ask_choosing sound.same, TokenThread.ask_choosing sound'.same]
  | storing chosen =>
      rw [TokenThread.ask_storing sound.same chosen, TokenThread.ask_storing sound'.same chosen]
  | generated chosen => rfl
  | @listing q =>
      have tokens : w.memory.apiTokensOf q.userId = w'.memory.apiTokensOf q.userId := by
        rw [show q.userId = b from owner]
        exact sound.apiTokensOf_eq sound' has
      rw [TokenThread.ask_listing, TokenThread.ask_listing, tokens]
  | @summarizing q known tokens own =>
      cases tokens with
      | nil => rfl
      | cons t tokens =>
          have given := own t List.mem_cons_self
          have given' : t.id ∈ w'.newIds b := by
            rw [newIds, ← alike]
            exact given
          have roles := sound.rolesOf_eq sound' has apart apart' given given'
          rw [TokenThread.ask_summarizing, TokenThread.ask_summarizing, summaryIn, summaryIn, roles]
  | @removing q tokenId =>
      have owns : w.memory.ownsApiToken q.userId tokenId =
          w'.memory.ownsApiToken q.userId tokenId := by
        rw [show q.userId = b from owner]
        exact sound.ownsApiToken_eq sound' has tokenId
      rw [TokenThread.ask_removing, TokenThread.ask_removing, owns]
      cases w'.memory.ownsApiToken q.userId tokenId <;> rfl
  | removed => rfl
  | failed => rfl

end TokenWorld

/-! ## Runs without a user -/

/-- A run without the requests of a user. -/
def TokenMove.without (a : String) (moves : List TokenMove) : List TokenMove :=
  moves.filter (·.userId != a)

/-- What is given once is given once without some requests. -/
theorem FreshRequests.without {moves : List TokenMove}
    (fresh : FreshRequests (moves.filterMap TokenMove.request?)) (a : String) :
    FreshRequests ((TokenMove.without a moves).filterMap TokenMove.request?) :=
  fresh.sublist (List.filter_sublist.filterMap _)

namespace TokenWorld

variable {s : Service} {w w' : TokenWorld} {m : Memory} {moves : List TokenMove}
  {move : TokenMove} {x : TokenThread} {a b id text : String} {p : Principal}

/-- A move does the same to the requests of a user when their queries have the same answers. -/
theorem threads_after_congr (alike : w.threads b = w'.threads b)
    (asked : ∀ x ∈ w.threads b, (x.ask w.memory).1 = (x.ask w'.memory).1) (move : TokenMove) :
    (w.after move).threads b = (w'.after move).threads b := by
  by_cases own : b = move.userId
  · subst own
    cases move with
    | arrive r =>
        change w.threads r.userId = w'.threads r.userId at alike
        show Function.update _ _ _ r.userId = Function.update _ _ _ r.userId
        rw [Function.update_self, Function.update_self, alike]
    | serve u n =>
        change w.threads u = w'.threads u at alike
        show (w.after (.serve u n)).threads u = (w'.after (.serve u n)).threads u
        cases here : (w.threads u)[n]? with
        | none => rw [after, here, after, ← alike, here, alike]
        | some x =>
            rw [after_serve here, after_serve (alike ▸ here), threads_answered_self,
              threads_answered_self, alike]
            rw [asked x (List.mem_of_getElem? here)]
  · rw [threads_after_of_ne own, threads_after_of_ne own, alike]

/-- The requests of a user come as far and are told the same without those of another user. -/
theorem threads_run_without (bare : m.HasNoApiTokens)
    (fresh : FreshRequests (moves.filterMap TokenMove.request?)) (other : a ≠ b) :
    ((start m).run moves).threads b = ((start m).run (TokenMove.without a moves)).threads b := by
  induction moves using List.reverseRecOn with
  | nil => rfl
  | append_singleton moves move ih =>
      have earlier := fresh.of_append
      have alike := ih earlier
      rw [run_concat]
      by_cases theirs : move.userId = a
      · have left : TokenMove.without a (moves ++ [move]) = TokenMove.without a moves := by
          simp [TokenMove.without, theirs]
        have notMine : b ≠ move.userId := fun mine => other (theirs.symm.trans mine.symm)
        rw [left, threads_after_of_ne notMine, alike]
      · have left : TokenMove.without a (moves ++ [move]) =
            TokenMove.without a moves ++ [move] := by
          simp [TokenMove.without, theirs]
        rw [left, run_concat]
        refine threads_after_congr alike (fun x hx => ?_) move
        exact (sound_run bare earlier).ask_eq (sound_run bare (earlier.without a))
          (apart_run earlier) (apart_run (earlier.without a)) alike hx

/-! ## Listings -/

/-- The tokens that a user has are listed, older ones first, and of equal age the one with the
smaller id first. -/
structure Lists (w : TokenWorld) (b : String) (tokens : List ApiTokenSummary) : Prop where
  sorted : tokens.Pairwise fun s t =>
    s.createdAt < t.createdAt ∨ s.createdAt = t.createdAt ∧ s.id < t.id
  mem_iff : ∀ t, t ∈ tokens ↔ ∃ made ∈ w.left b, t = made.1.summary made.2

/-- A token is listed as its user was told of it. -/
theorem Sound.summaryIn_record {made : GeneratedApiToken × Time} (sound : Sound m w)
    (has : made ∈ w.left b) :
    summaryIn w.memory (made.1.record b made.2) = made.1.summary made.2 := by
  obtain ⟨y, hy, told⟩ := List.mem_filterMap.1 (mem_tokensLeft.1 has).1
  obtain ⟨-, -, known⟩ := (sound.stage b y hy).given told
  have stored : w.memory.apiTokenRoles.find? (made.1.record b made.2).id =
      some (made.1.roles.map (·.id)) := (sound.books.roles _ _).2 ⟨b, made, has, rfl, rfl⟩
  have roles : w.memory.rolesOf (some (made.1.roles.map (·.id))) = made.1.roles := by
    refine Memory.rolesOf_ids fun role hrole => ?_
    rw [sound.same.roles]
    exact known role hrole
  rw [summaryIn, stored, roles]
  rfl

/-- What the store lists of a user are the tokens that the user has. -/
theorem Sound.lists (sound : Sound m w) (b : String) :
    w.Lists b ((w.memory.apiTokensOf b).map (summaryIn w.memory)) where
  sorted := List.pairwise_map.2 (Memory.apiTokensOf_sorted w.memory b)
  mem_iff t := by
    rw [List.mem_map]
    constructor
    · rintro ⟨record, listed, rfl⟩
      obtain ⟨stored, owner⟩ := Memory.mem_apiTokensOf.1 listed
      obtain ⟨made, has, rfl⟩ := (sound.mem_data_iff owner).1 stored
      exact ⟨made, has, sound.summaryIn_record has⟩
    · rintro ⟨made, has, rfl⟩
      refine ⟨made.1.record b made.2, ?_, sound.summaryIn_record has⟩
      exact Memory.mem_apiTokensOf.2 ⟨(sound.mem_data_iff rfl).2 ⟨made, has, rfl⟩, rfl⟩

/-- How a listing of what the store `m` has can go on. -/
inductive Listing (m : Memory) (p : Principal) : Program TokenOutcome → Prop where
  | begins : Listing m p (TokenRequest.listing p)
  | goesOn {known : List ApiTokenSummary} {tokens : List ApiTokenRecord}
      (listed : tokens ⊆ m.apiTokensOf p.userId)
      (parts : known.reverse ++ tokens.map (summaryIn m) =
        (m.apiTokensOf p.userId).map (summaryIn m)) :
      Listing m p (TokenRequest.summarizing known tokens)

/-- A listing that has ended tells what the store had. -/
theorem Listing.eq_of_done {answer : Except Error TokenOutcome} (h : Listing m p (.done answer)) :
    answer = .ok (.listed ((m.apiTokensOf p.userId).map (summaryIn m))) := by
  generalize rest : Action.done answer = program at h
  cases h with
  | begins => cases rest
  | @goesOn known tokens listed parts =>
      cases tokens with
      | nil =>
          rw [List.map_nil, List.append_nil] at parts
          rw [TokenRequest.summarizing, parts] at rest
          exact Action.done.inj rest
      | cons t tokens => cases rest

/-- A listing goes on while its user has the same tokens. -/
theorem Listing.ask {rest : Program TokenOutcome} (sound : Sound m w) (sound' : Sound m w')
    (apart : w.Apart) (apart' : w'.Apart) (has : w'.left p.userId = w.left p.userId)
    (h : Listing w.memory p rest) :
    ∃ rest', ((TokenThread.mk (.list p) rest).ask w'.memory).1 = ⟨.list p, rest'⟩ ∧
      Listing w.memory p rest' := by
  cases h with
  | begins =>
      rw [TokenThread.ask_listing, sound'.apiTokensOf_eq sound has]
      exact ⟨_, rfl, .goesOn (List.Subset.refl _) rfl⟩
  | @goesOn known tokens listed parts =>
      cases tokens with
      | nil => exact ⟨_, rfl, .goesOn listed parts⟩
      | cons t tokens =>
          obtain ⟨stored, owner⟩ := Memory.mem_apiTokensOf.1 (listed List.mem_cons_self)
          obtain ⟨made, mine, rfl⟩ := (sound.mem_data_iff owner).1 stored
          have roles := sound'.rolesOf_eq sound has apart' apart
            (sound'.id_mem_of_left (has ▸ mine)) (sound.id_mem_of_left mine)
          rw [TokenThread.ask_summarizing, summaryIn]
          refine ⟨_, rfl, .goesOn (fun t ht => listed (List.mem_cons_of_mem _ ht)) ?_⟩
          rw [← parts, List.reverse_cons, List.append_assoc, List.map_cons]
          have summary : ApiTokenSummary.ofRecord (made.1.record p.userId made.2)
              (w'.memory.rolesOf (w'.memory.apiTokenRoles.find? made.1.id)) =
              summaryIn w.memory (made.1.record p.userId made.2) := congrArg _ roles
          exact congrArg (known.reverse ++ · :: tokens.map (summaryIn w.memory)) summary

/-- A listing that began in the world `w₀` is served, and its user still has the same tokens. -/
structure Undisturbed (w₀ : TokenWorld) (p : Principal) (n : Nat) (w : TokenWorld) : Prop where
  has : w.left p.userId = w₀.left p.userId
  goesOn : ∃ rest, (w.threads p.userId)[n]? = some ⟨.list p, rest⟩ ∧ Listing w₀.memory p rest

/-- A listing begins. -/
theorem Undisturbed.begin (w : TokenWorld) (p : Principal) :
    w.Undisturbed p (w.threads p.userId).length (w.after (.arrive (.list p))) where
  has := congrFun (left_after_arrive _ _) p.userId
  goesOn := by
    have arrived : (w.after (.arrive (.list p))).threads p.userId =
        w.threads p.userId ++ [.start (.list p)] := Function.update_self ..
    rw [arrived, List.getElem?_concat_length, TokenThread.start, TokenRequest.program_list]
    exact ⟨_, rfl, .begins⟩

/-- A listing goes on while its user does nothing else. -/
theorem Undisturbed.after {n : Nat} {w₀ : TokenWorld} (begun : w₀.Undisturbed p n w) (sound₀ : Sound m w₀)
    (apart₀ : w₀.Apart) (sound : Sound m w) (apart : w.Apart)
    (alone : move.userId = p.userId → move = .serve p.userId n) :
    w₀.Undisturbed p n (w.after move) := by
  obtain ⟨has, rest, here, goesOn⟩ := begun
  by_cases own : move.userId = p.userId
  · rw [alone own, after_serve here]
    obtain ⟨rest', asked, goesOn'⟩ := goesOn.ask sound₀ sound apart₀ apart has
    generalize TokenThread.ask ⟨.list p, rest⟩ _ = next at asked ⊢
    obtain ⟨x', m'⟩ := next
    obtain rfl : x' = ⟨.list p, rest'⟩ := asked
    have same : (w.answered p.userId n (⟨.list p, rest'⟩, m')).left = w.left :=
      left_answered_of_eq here rfl rfl
    refine ⟨?_, rest', ?_, goesOn'⟩
    · rw [same, has]
    · obtain ⟨inside, -⟩ := List.getElem?_eq_some_iff.1 here
      rw [threads_answered_self, List.getElem?_set_self inside]
  · have other : p.userId ≠ move.userId := Ne.symm own
    refine ⟨?_, rest, ?_, goesOn⟩
    · rw [left, threads_after_of_ne other]
      exact has
    · rw [threads_after_of_ne other]
      exact here

/-- A listing is served while its user does nothing else, whatever others do. -/
theorem undisturbed_run (bare : m.HasNoApiTokens) {during : List TokenMove}
    (fresh : FreshRequests
      ((moves ++ .arrive (.list p) :: during).filterMap TokenMove.request?))
    (alone : ∀ move ∈ during, move.userId = p.userId →
      move = .serve p.userId (((start m).run moves).threads p.userId).length) :
    ((start m).run moves).Undisturbed p (((start m).run moves).threads p.userId).length
      ((start m).run (moves ++ .arrive (.list p) :: during)) := by
  induction during using List.reverseRecOn with
  | nil =>
      rw [run_concat]
      exact Undisturbed.begin _ p
  | append_singleton during move ih =>
      have before : moves ++ .arrive (.list p) :: (during ++ [move]) =
          (moves ++ .arrive (.list p) :: during) ++ [move] := by simp
      rw [before] at fresh ⊢
      have earlier := fresh.of_append
      have first := earlier.of_append
      rw [run_concat]
      refine (ih earlier fun move hmove => alone move (List.mem_append_left _ hmove)).after
        (sound_run bare first) (apart_run first) (sound_run bare earlier) (apart_run earlier) ?_
      exact alone move (List.mem_append_right _ List.mem_cons_self)

/-! ## All together -/

/-- A user sees the same in two worlds.  The requests of the user have come as far and were told the
same, and so are the next listing and the next deletion.  The texts that were given to new tokens of
the user are accepted for the same. -/
structure Alike (s : Service) (b : String) (w w' : TokenWorld) : Prop where
  threads : w.threads b = w'.threads b
  listing : ∀ p : Principal, p.userId = b →
    (p.listApiTokens.runOn w.memory).1 = (p.listApiTokens.runOn w'.memory).1
  removal : ∀ p : Principal, p.userId = b → ∀ tokenId,
    ((p.removeApiToken tokenId).runOn w.memory).1 =
      ((p.removeApiToken tokenId).runOn w'.memory).1
  access : ∀ x ∈ w.threads b, ∀ text, x.request.newText? = some text → ∀ now,
    ((s.authenticate now (.ofText text)).runOn w.memory).1 =
      ((s.authenticate now (.ofText text)).runOn w'.memory).1

/-- A listing that arrives after some moves is told nothing but some tokens, when its user does
nothing else until then, whatever others do. -/
def Tells (m : Memory) (moves : List TokenMove) (p : Principal) (tokens : List ApiTokenSummary) :
    Prop :=
  ∀ during answer,
    FreshRequests ((moves ++ .arrive (.list p) :: during).filterMap TokenMove.request?) →
    (∀ move ∈ during, move.userId = p.userId →
      move = .serve p.userId (((start m).run moves).threads p.userId).length) →
    (((start m).run (moves ++ .arrive (.list p) :: during)).threads p.userId)[
      (((start m).run moves).threads p.userId).length]? = some ⟨.list p, .done answer⟩ →
    answer = .ok (.listed tokens)

/-- A user is told that there is no such token, and nothing changes. -/
def Refuses (w : TokenWorld) (p : Principal) (tokenId : String) : Prop :=
  (p.removeApiToken tokenId).runOn w.memory =
    (.error (.notFound ("API token " ++ tokenId)), w.memory)

/-- Nobody deletes a token of which there is no record of the own. -/
theorem refuses_of_foreign
    (foreign : ∀ record, w.memory.apiTokens.find? id = some record → record.userId ≠ p.userId) :
    w.Refuses p id := by
  have lacks : w.memory.ownsApiToken p.userId id = false := by
    rw [Bool.eq_false_iff]
    intro owns
    obtain ⟨record, found, owner⟩ := Memory.ownsApiToken_iff.1 owns
    exact foreign record found owner
  rw [Refuses, Principal.runOn_removeApiToken, lacks, if_neg Bool.false_ne_true]

/-- A user sees the same without another user. -/
theorem alike_without (s : Service) (bare : m.HasNoApiTokens)
    (fresh : FreshRequests (moves.filterMap TokenMove.request?)) (other : a ≠ b) :
    ((start m).run moves).Alike s b ((start m).run (TokenMove.without a moves)) := by
  have threads := threads_run_without bare fresh other
  have sound := sound_run bare fresh
  have sound' := sound_run bare (fresh.without a)
  have apart := apart_run (m := m) fresh
  have apart' := apart_run (m := m) (fresh.without a)
  have has := congrArg tokensLeft threads
  refine ⟨threads, ?_, ?_, ?_⟩
  · rintro p rfl
    rw [Principal.runOn_listApiTokens, Principal.runOn_listApiTokens,
      sound.listing_eq sound' has apart apart']
  · rintro p rfl tokenId
    rw [Principal.runOn_removeApiToken, Principal.runOn_removeApiToken,
      sound.ownsApiToken_eq sound' has]
    split <;> rfl
  · intro x hx text given now
    exact sound.authenticate_eq sound' apart apart' threads hx given s now

/-- API tokens of different users do not interfere.  Whatever the order is in which requests arrive
and are served, a user sees the same without the requests of another user; a listing tells exactly
the tokens that its user was told of and has not deleted, sorted; and whoever deletes the token of
another user is told the same as if there were none, and nothing changes. -/
theorem noninterference (s : Service) (bare : m.HasNoApiTokens)
    (fresh : FreshRequests (moves.filterMap TokenMove.request?)) (other : a ≠ b) :
    ((start m).run moves).Alike s b ((start m).run (TokenMove.without a moves)) ∧
      ∀ p : Principal, p.userId = b →
        (∃ tokens, ((start m).run moves).Lists b tokens ∧
          p.listApiTokens.runOn ((start m).run moves).memory =
            (.ok tokens, ((start m).run moves).memory) ∧
          Tells m moves p tokens) ∧
        (∀ record ∈ ((start m).run moves).memory.apiTokens.data, record.userId ≠ b →
          ((start m).run moves).Refuses p record.id) ∧
        ∀ tokenId, (∀ record ∈ ((start m).run moves).memory.apiTokens.data, record.id ≠ tokenId) →
          ((start m).run moves).Refuses p tokenId := by
  refine ⟨alike_without s bare fresh other, ?_⟩
  rintro p rfl
  have sound := sound_run bare fresh
  refine ⟨⟨_, sound.lists p.userId, p.runOn_listApiTokens _, ?_⟩, ?_, ?_⟩
  · intro during answer fresh' alone ended
    obtain ⟨rest, here, goesOn⟩ := (undisturbed_run bare fresh' alone).goesOn
    obtain rfl : Action.done answer = rest :=
      congrArg TokenThread.rest (Option.some.inj (ended.symm.trans here))
    exact goesOn.eq_of_done
  · intro record stored foreign
    refine refuses_of_foreign fun record' found => ?_
    rw [Register.mem_data_iff.1 stored] at found
    exact Option.some.inj found ▸ foreign
  · intro tokenId absent
    refine refuses_of_foreign fun record found => ?_
    have named : record.id = tokenId := Register.nameOf_of_find? found
    exact absurd named (absent record (Register.mem_data_iff.2 (named ▸ found)))

end TokenWorld

/-- Bob in a session. -/
def bobSession : Principal :=
  ⟨{ aliceSession.claims with subject := "2" }, .session⟩

/-- Alice makes a token, and Bob wants to delete it, as soon as it is there. -/
def aliceAndBob : List TokenMove :=
  [.arrive (.generate aliceSession aliceErrand none (some 2000) ""),
    .arrive (.remove bobSession "errand"), .serve "1" 0, .serve "1" 0, .serve "2" 0]

/-- Alice has her token, and sees what she sees without Bob. -/
theorem aliceAndBob_apart :
    (smallStore none).HasNoApiTokens ∧
    FreshRequests (aliceAndBob.filterMap TokenMove.request?) ∧
    bobSession.userId ≠ aliceSession.userId ∧
    ∃ w, w = (TokenWorld.start (smallStore none)).run aliceAndBob ∧
      w.left "1" = [(Principal.newToken aliceErrand (some 2000) "" [], 1000)] ∧
      w.Alike smallService "1"
        ((TokenWorld.start (smallStore none)).run (TokenMove.without "2" aliceAndBob)) ∧
      ∃ tokens, aliceSession.listApiTokens.runOn w.memory = (.ok tokens, w.memory) ∧
        (Principal.newToken aliceErrand (some 2000) "" []).summary 1000 ∈ tokens := by
  have bare : (smallStore none).HasNoApiTokens := ⟨rfl, fun _ => rfl⟩
  have fresh : FreshRequests (aliceAndBob.filterMap TokenMove.request?) := by
    have texts : (aliceAndBob.filterMap TokenMove.request?).filterMap TokenRequest.newText? =
        [Token.ApiToken.ofRandom aliceErrand.apiTokenRandom] := rfl
    refine ⟨by decide, ?_, ?_⟩
    · rw [texts]
      simp
    · rw [texts]
      intro text htext other hother same
      rw [List.mem_singleton.1 htext, List.mem_singleton.1 hother]
  have other : bobSession.userId ≠ aliceSession.userId := by decide
  obtain ⟨alike, sees⟩ := TokenWorld.noninterference smallService bare fresh other
  obtain ⟨⟨tokens, lists, told, -⟩, -, -⟩ := sees aliceSession rfl
  have left : ((TokenWorld.start (smallStore none)).run aliceAndBob).left "1" =
      [(Principal.newToken aliceErrand (some 2000) "" [], 1000)] := rfl
  refine ⟨bare, fresh, other, _, rfl, left, alike, tokens, told, ?_⟩
  refine (lists.mem_iff _).2 ⟨(Principal.newToken aliceErrand (some 2000) "" [], 1000), ?_, rfl⟩
  show _ ∈ ((TokenWorld.start (smallStore none)).run aliceAndBob).left "1"
  rw [left]
  exact List.mem_singleton_self _

end Gatehouse.Access
