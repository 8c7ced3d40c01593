import Gatehouse.Proofs.Access.Deeds
import Gatehouse.Proofs.Access.Success

/-!
# API tokens of a user - From making to deletion

Whoever presents an API token is accepted from the time it was made until it is deleted, as long as its
date has not passed and its user is active.  Ids and texts of new tokens are given once, and the hash
does not collide on the texts; then the store holds the record of a token until it is deleted, and
afterwards no record with its digest.

Main definitions:

- `Memory.Holds` and `Memory.Lacks`: the store has the record of a token, and has none with a digest.
- `Memory.removedDuring`: a token is deleted in a run.
- `FreshTokens`: the ids and texts of the tokens that are made in a run.

Main results:

- Theorem `PresentedToken.ofText_ofRandom` and theorem `PresentedToken.ofText_signed`: API tokens and
  signed tokens are told apart.
- Theorem `Memory.held_during`: the record of a token is there until the token is deleted.
- Theorem `apiToken_lifecycle`: when an API token is accepted and for whom.
-/

namespace Gatehouse.Access

open Store (Memory ApiTokenRecord)
open Token (Time)

/-! ## Telling tokens apart -/

namespace PresentedToken

/-- The text of every new API token is told to be one. -/
theorem ofText_ofRandom (random : Bytes) :
    ofText (Token.ApiToken.ofRandom random) = .api (Token.ApiToken.ofRandom random) := by
  have marked : Token.ApiToken.isApiToken (Token.ApiToken.ofRandom random) = true := by
    rw [Token.ApiToken.isApiToken, Text.startsWith, Token.ApiToken.ofRandom, String.toList_append]
    exact List.isPrefixOf_iff_prefix.2 (List.prefix_append _ _)
  rw [ofText, if_pos marked]

/-- A header is written with a brace first, which Base64 writes as `e`. -/
theorem head?_encodePart_headerText (a : Token.Algorithm) :
    (Token.encodePart (Token.headerText a)).toList.head? = some 'e' := by
  cases a <;> decide +kernel

/-- A signed token is told to be one, whatever it says. -/
theorem ofText_signed {a : Token.Algorithm} {secret : Bytes} {claims : Token.Claims}
    {text : String} (h : Token.sign a secret claims = .ok text) : ofText text = .signed text := by
  rw [Token.sign, Token.secret_ne_nil_of_sign h] at h
  obtain rfl := Except.ok.inj h
  obtain ⟨rest, begins⟩ := List.head?_eq_some_iff.1 (head?_encodePart_headerText a)
  have unmarked : Token.ApiToken.isApiToken
      (Token.signedMessage a claims ++ "." ++
        Token.signature a secret (Token.signedMessage a claims)) = false := by
    rw [Token.ApiToken.isApiToken, Text.startsWith, Token.signedMessage]
    simp only [String.toList_append, begins, List.cons_append]
    rfl
  rw [ofText, unmarked, if_neg Bool.false_ne_true]

end PresentedToken

end Gatehouse.Access

/-! ## Records of tokens -/

namespace Gatehouse.Store.Memory

open Access (Deed)

variable {m : Memory} {record : ApiTokenRecord} {roleIds : List String} {digest : String}
  {d : Deed} {deeds : List Deed}

/-- The store has the record of a token with its roles, and no other record with its digest. -/
structure Holds (m : Memory) (record : ApiTokenRecord) (roleIds : List String) : Prop where
  stored : record ∈ m.apiTokens.data
  roles : m.apiTokenRoles.find? record.id = some roleIds
  only : ∀ other ∈ m.apiTokens.data, other.digest = record.digest → other = record

/-- The store has no record with a digest. -/
def Lacks (m : Memory) (digest : String) : Prop :=
  ∀ record ∈ m.apiTokens.data, record.digest ≠ digest

/-- The record is found by its digest. -/
theorem Holds.find? (h : m.Holds record roleIds) :
    m.apiTokens.data.find? (·.digest == record.digest) = some record := by
  cases found : m.apiTokens.data.find? (·.digest == record.digest) with
  | none =>
      have absent := List.find?_eq_none.1 found record h.stored
      simp at absent
  | some other =>
      have same : other.digest = record.digest := by simpa using List.find?_some found
      rw [h.only other (List.mem_of_find?_eq_some found) same]

/-- The store holds a token that is put in, if no other has its digest. -/
theorem Lacks.holds_withApiToken (h : m.Lacks record.digest) (roleIds : List String) :
    (m.withApiToken record roleIds).Holds record roleIds := by
  constructor
  · exact mem_withApiToken.2 (.inl rfl)
  · rw [find?_withApiToken_roles, if_pos rfl]
  · intro other hother same
    rcases mem_withApiToken.1 hother with new | ⟨old, -⟩
    · exact new
    · exact absurd same (h other old)

theorem Lacks.find? (h : m.Lacks digest) :
    m.apiTokens.data.find? (·.digest == digest) = none := by
  rw [List.find?_eq_none]
  intro record hrecord
  simpa using h record hrecord

end Gatehouse.Store.Memory

namespace Gatehouse.Access.Deed

open Store (Memory)

variable {m : Memory}

/-- The id of a token that is asked for. -/
def newId? : Deed → Option String
  | .generate _ o _ _ _ => some o.apiTokenId
  | _ => none

/-- The text of a token that is asked for. -/
def newText? : Deed → Option String
  | .generate _ o _ _ _ => some (Token.ApiToken.ofRandom o.apiTokenRandom)
  | _ => none

/-- Is the token with an id deleted? -/
def removes (m : Memory) (id : String) : Deed → Bool
  | .remove p tokenId => tokenId == id && ((p.removeApiToken tokenId).runOn m).1.isOk
  | _ => false

/-- Only its owner deletes a token. -/
theorem removes_of_owns {p : Principal} {tokenId : String}
    (owns : m.ownsApiToken p.userId tokenId = true) :
    (Deed.remove p tokenId).removes m tokenId = true := by
  rw [removes, Principal.runOn_removeApiToken, if_pos owns]
  simp [Except.isOk, Except.toBool]

end Gatehouse.Access.Deed

namespace Gatehouse.Store.Memory

open Access (Deed Principal)

variable {m m' : Memory} {record : ApiTokenRecord} {roleIds : List String} {digest : String}
  {d : Deed} {deeds : List Deed}

/-- Is the token with an id deleted in a run? -/
def removedDuring (m : Memory) (id : String) : List Deed → Bool
  | [] => false
  | d :: deeds => d.removes m id || (d.after m).removedDuring id deeds

/-- No deed but one that asks for a token with the digest puts a record with it into the store. -/
theorem Lacks.after (h : m.Lacks digest) (done : d.Does m m')
    (fresh : ∀ text, d.newText? = some text → Token.ApiToken.digest text ≠ digest) :
    m'.Lacks digest := by
  cases done with
  | keeps grows apiTokens roles =>
      rw [Lacks, apiTokens]
      exact h
  | makes session chosen =>
      intro other hother
      rcases mem_withApiToken.1 hother with rfl | ⟨old, -⟩
      · exact fresh _ rfl
      · exact h other old
  | deletes owns =>
      intro other hother
      exact h other (mem_withoutApiToken.1 hother).1

theorem Lacks.during (h : m.Lacks digest)
    (fresh : ∀ d ∈ deeds, ∀ text, d.newText? = some text → Token.ApiToken.digest text ≠ digest) :
    (m.during deeds).Lacks digest := by
  induction deeds generalizing m with
  | nil => exact h
  | cons d deeds ih =>
      rw [List.forall_mem_cons] at fresh
      exact ih (h.after (d.does m) fresh.1) fresh.2

/-- The record of a token stays when it is not deleted and no other token gets its id or digest. -/
theorem Holds.after (h : m.Holds record roleIds) (done : d.Does m m')
    (kept : d.removes m record.id = false)
    (freshId : ∀ id, d.newId? = some id → id ≠ record.id)
    (fresh : ∀ text, d.newText? = some text → Token.ApiToken.digest text ≠ record.digest) :
    m'.Holds record roleIds := by
  cases done with
  | keeps grows apiTokens roles =>
      constructor
      · rw [apiTokens]
        exact h.stored
      · rw [roles]
        exact h.roles
      · rw [apiTokens]
        exact h.only
  | @makes p o wanted expiresAt description granted session chosen =>
      have other : record.id ≠ (p.newRecord o expiresAt description).id := (freshId _ rfl).symm
      constructor
      · exact mem_withApiToken.2 (.inr ⟨h.stored, other⟩)
      · rw [find?_withApiToken_roles, if_neg other]
        exact h.roles
      · intro candidate hcandidate same
        rcases mem_withApiToken.1 hcandidate with rfl | ⟨old, -⟩
        · exact absurd same (fresh _ rfl)
        · exact h.only candidate old same
  | @deletes p tokenId owns =>
      have other : record.id ≠ tokenId := by
        rintro rfl
        rw [Deed.removes_of_owns owns] at kept
        cases kept
      constructor
      · exact mem_withoutApiToken.2 ⟨h.stored, other⟩
      · rw [find?_withoutApiToken_roles, if_neg other]
        exact h.roles
      · intro candidate hcandidate same
        exact h.only candidate (mem_withoutApiToken.1 hcandidate).1 same

/-- The record of a token is gone when the token is deleted. -/
theorem Holds.after_removal (h : m.Holds record roleIds)
    (removed : d.removes m record.id = true) : (d.after m).Lacks record.digest := by
  cases d with
  | remove p tokenId =>
      rw [Deed.removes, Bool.and_eq_true, beq_iff_eq] at removed
      obtain ⟨rfl, ended⟩ := removed
      rw [Deed.after]
      rw [Principal.runOn_removeApiToken] at ended ⊢
      split at ended
      · rename_i owns
        rw [if_pos owns]
        intro other hother same
        obtain ⟨old, different⟩ := mem_withoutApiToken.1 hother
        exact different (congrArg ApiTokenRecord.id (h.only other old same))
      · cases ended
  | generate | login | query | upkeep => cases removed

/-- The record of a token is there until the token is deleted, and then no record with its digest. -/
theorem held_during (h : m.Holds record roleIds)
    (freshIds : ∀ d ∈ deeds, ∀ id, d.newId? = some id → id ≠ record.id)
    (fresh : ∀ d ∈ deeds, ∀ text, d.newText? = some text →
      Token.ApiToken.digest text ≠ record.digest) :
    if m.removedDuring record.id deeds then (m.during deeds).Lacks record.digest
    else (m.during deeds).Holds record roleIds := by
  induction deeds generalizing m with
  | nil => exact h
  | cons d deeds ih =>
      rw [List.forall_mem_cons] at freshIds fresh
      rw [removedDuring, during_cons]
      cases removed : d.removes m record.id with
      | true => exact (h.after_removal removed).during fresh.2
      | false => exact ih (h.after (d.does m) removed freshIds.1 fresh.1) freshIds.2 fresh.2

end Gatehouse.Store.Memory

/-! ## The life of a token -/

namespace Gatehouse.Access

open Store (Memory ApiTokenRecord)
open Token (Time)

variable {s : Service} {m : Memory} {now : Time} {record : ApiTokenRecord} {roleIds : List String}
  {before later : List Deed} {d : Deed} {text token : String}

/-- Who is accepted with the token of a record. -/
theorem Service.runOn_authenticateApi_of_holds (h : m.Holds record roleIds)
    (own : Token.ApiToken.digest token = record.digest) :
    (s.authenticateApi now token).runOn m =
      (if record.isExpired now then .error .unauthenticated
        else
          match m.activeUser? record.userId with
          | none => .error .unauthenticated
          | some user =>
            .ok ⟨apiTokenClaims s.config record user (m.rolesOf (some roleIds)),
              .apiToken record.id (m.rolesOf (some roleIds))⟩, m) := by
  rw [runOn_authenticateApi, own, h.find?]
  cases active : m.activeUser? record.userId with
  | none => simp [active]
  | some user => simp [active, h.roles]

/-- Nobody is accepted with a token that the store has no record of. -/
theorem Service.runOn_authenticateApi_of_lacks (h : m.Lacks (Token.ApiToken.digest token)) :
    (s.authenticateApi now token).runOn m = (.error .unauthenticated, m) := by
  rw [runOn_authenticateApi, h.find?]

/-- The ids and the texts of the tokens that are asked for in a run are given once.  The hash does not
collide on the texts, and the store at the start has no record with the digest of one. -/
structure FreshTokens (m : Memory) (deeds : List Deed) : Prop where
  ids : (deeds.filterMap Deed.newId?).Nodup
  texts : (deeds.filterMap Deed.newText?).Nodup
  apart : ∀ text ∈ deeds.filterMap Deed.newText?, ∀ other ∈ deeds.filterMap Deed.newText?,
    Token.ApiToken.digest text = Token.ApiToken.digest other → text = other
  unstored : ∀ text ∈ deeds.filterMap Deed.newText?, m.Lacks (Token.ApiToken.digest text)

/-- What is given once in a list is given nowhere else in it. -/
theorem notMem_filterMap_of_nodup {α β : Type} {f : α → Option β} {a : α} {b : β}
    {before later : List α} (once : ((before ++ a :: later).filterMap f).Nodup)
    (given : f a = some b) : b ∉ (before ++ later).filterMap f := by
  rw [List.filterMap_append, List.filterMap_cons_some given, List.perm_middle.nodup_iff,
    List.nodup_cons] at once
  rw [List.filterMap_append]
  exact once.1

/-- The other tokens have other ids. -/
theorem FreshTokens.id_ne {id : String} (fresh : FreshTokens m (before ++ d :: later))
    (given : d.newId? = some id) :
    ∀ e ∈ before ++ later, ∀ other, e.newId? = some other → other ≠ id := by
  rintro e he other hother rfl
  exact notMem_filterMap_of_nodup fresh.ids given (List.mem_filterMap.2 ⟨e, he, hother⟩)

/-- The other tokens have other digests. -/
theorem FreshTokens.digest_ne (fresh : FreshTokens m (before ++ d :: later))
    (given : d.newText? = some text) :
    ∀ e ∈ before ++ later, ∀ other, e.newText? = some other →
      Token.ApiToken.digest other ≠ Token.ApiToken.digest text := by
  intro e he other hother same
  have everywhere : ∀ e ∈ before ++ later, e ∈ before ++ d :: later := by
    intro e he
    rcases List.mem_append.1 he with early | late
    · exact List.mem_append_left _ early
    · exact List.mem_append_right _ (List.mem_cons_of_mem _ late)
  have asked : text ∈ (before ++ d :: later).filterMap Deed.newText? :=
    List.mem_filterMap.2 ⟨d, by simp, given⟩
  obtain rfl : other = text :=
    fresh.apart _ (List.mem_filterMap.2 ⟨e, everywhere e he, hother⟩) _ asked same
  exact notMem_filterMap_of_nodup fresh.texts given (List.mem_filterMap.2 ⟨e, he, hother⟩)

/-- After a run in which a token was made, the store has its record, or the token was deleted and the
store has no record with its digest. -/
theorem FreshTokens.held {p : Principal} {o : Occasion} {wanted : Option (List String)}
    {expiresAt : Option Time} {description : String} {roleIds : List String}
    (fresh : FreshTokens m (before ++ .generate p o wanted expiresAt description :: later))
    (made : (Deed.generate p o wanted expiresAt description).after (m.during before) =
      (m.during before).withApiToken (p.newRecord o expiresAt description) roleIds) :
    let first := (Deed.generate p o wanted expiresAt description).after (m.during before)
    let last := m.during (before ++ .generate p o wanted expiresAt description :: later)
    if first.removedDuring o.apiTokenId later then
      last.Lacks (p.newRecord o expiresAt description).digest
    else last.Holds (p.newRecord o expiresAt description) roleIds := by
  intro first last
  have same : last = first.during later := Memory.during_append _ _
  have others := fresh.digest_ne (d := .generate p o wanted expiresAt description) rfl
  have otherIds := fresh.id_ne (d := .generate p o wanted expiresAt description) rfl
  have unstored : (m.during before).Lacks (p.newRecord o expiresAt description).digest := by
    refine Memory.Lacks.during (fresh.unstored _ ?_) fun e he => others e ?_
    · exact List.mem_filterMap.2 ⟨_, List.mem_append_right _ List.mem_cons_self, rfl⟩
    · exact List.mem_append_left _ he
  have new : first.Holds (p.newRecord o expiresAt description) roleIds := by
    simp only [first, made]
    exact unstored.holds_withApiToken roleIds
  rw [same]
  exact Memory.held_during new (fun e he => otherIds e (List.mem_append_right _ he))
    fun e he => others e (List.mem_append_right _ he)

/-- An active user is one whose record is not deleted. -/
theorem exists_activeUser?_iff {userId : String} :
    (∃ user, m.activeUser? userId = some user) ↔
      ∃ user, m.users.find? userId = some user ∧ user.deleted = false := by
  constructor
  · rintro ⟨user, active⟩
    obtain ⟨record, -, -, stored, kept⟩ := Memory.exists_of_activeUser? active
    exact ⟨record, stored, kept⟩
  · rintro ⟨user, stored, kept⟩
    refine ⟨m.withEmail user, ?_⟩
    rw [Memory.activeUser?, stored]
    simp [Option.filter, Memory.withEmail, kept]

/-- A token has not expired when it has no date or one that has not passed. -/
theorem isExpired_eq_false_iff :
    record.isExpired now = false ↔ ∀ date, record.expiresAt = some date → now ≤ date := by
  rw [ApiTokenRecord.isExpired]
  cases record.expiresAt with
  | none => simp
  | some date => simp

/-- The outcome for whoever presents a token that was made in a run. -/
theorem FreshTokens.authenticate_eq {p : Principal} {o : Occasion} {wanted : Option (List String)}
    {expiresAt : Option Time} {description : String} {roleIds : List String}
    (fresh : FreshTokens m (before ++ .generate p o wanted expiresAt description :: later))
    (made : (Deed.generate p o wanted expiresAt description).after (m.during before) =
      (m.during before).withApiToken (p.newRecord o expiresAt description) roleIds)
    (s : Service) (now : Time) :
    let record := p.newRecord o expiresAt description
    let first := (Deed.generate p o wanted expiresAt description).after (m.during before)
    let last := m.during (before ++ .generate p o wanted expiresAt description :: later)
    ((s.authenticate now (.ofText (Token.ApiToken.ofRandom o.apiTokenRandom))).runOn last).1 =
      if first.removedDuring o.apiTokenId later || record.isExpired now then
        .error .unauthenticated
      else
        match last.activeUser? p.userId with
        | none => .error .unauthenticated
        | some user =>
          .ok ⟨Service.apiTokenClaims s.config record user (last.rolesOf (some roleIds)),
            .apiToken o.apiTokenId (last.rolesOf (some roleIds))⟩ := by
  intro record first last
  have held := fresh.held made
  rw [PresentedToken.ofText_ofRandom]
  show ((s.authenticateApi now (Token.ApiToken.ofRandom o.apiTokenRandom)).runOn
    (m.during (before ++ .generate p o wanted expiresAt description :: later))).1 = _
  cases removed : first.removedDuring o.apiTokenId later with
  | true =>
      rw [if_pos removed] at held
      rw [Service.runOn_authenticateApi_of_lacks held]
      rfl
  | false =>
      rw [if_neg (by simpa [first] using removed)] at held
      rw [Service.runOn_authenticateApi_of_holds held rfl]
      rfl

/-- Whoever presents the text of an API token that was made in a run is accepted exactly when the token
has not been deleted since, its date is absent or not before the time, and its user has a record that
is not deleted; and is then the user's, with the id of the token, for access, without a parent, and
with those of the granted roles that the store knows.  API tokens and signed tokens are told apart by
their texts, so that neither is looked up as the other. -/
theorem apiToken_lifecycle {p : Principal} {o : Occasion} {wanted : Option (List String)}
    {expiresAt : Option Time} {description : String} {g : GeneratedApiToken}
    (fresh : FreshTokens m (before ++ .generate p o wanted expiresAt description :: later))
    (made : ((p.generateApiToken o wanted expiresAt description).runOn (m.during before)).1 =
      .ok g) (s : Service) (now : Time) :
    let first := (Deed.generate p o wanted expiresAt description).after (m.during before)
    let last := m.during (before ++ .generate p o wanted expiresAt description :: later)
    let outcome := ((s.authenticate now (.ofText g.token)).runOn last).1
    ((∃ q, outcome = .ok q) ↔
      first.removedDuring g.id later = false ∧
      (∀ date, g.expiresAt = some date → now ≤ date) ∧
      ∃ user, last.users.find? p.userId = some user ∧ user.deleted = false) ∧
    (∀ q, outcome = .ok q →
      q.userId = p.userId ∧ q.claims.id = g.id ∧ q.claims.scopes = [.access] ∧
      q.claims.loginKind? = some .api ∧ q.claims.parent? = none ∧
      q.source = .apiToken g.id (last.rolesOf (some (g.roles.map (·.id))))) ∧
    (∀ e, outcome = .error e → e = .unauthenticated) ∧
    (∀ random, PresentedToken.ofText (Token.ApiToken.ofRandom random) =
      .api (Token.ApiToken.ofRandom random)) ∧
    (∀ algorithm claims text, Token.sign algorithm s.config.key claims = .ok text →
      PresentedToken.ofText text = .signed text) := by
  intro first last outcome
  obtain ⟨granted, rfl, stored⟩ := Principal.generateApiToken_ok made
  have told : outcome = _ := fresh.authenticate_eq stored s now
  have timely : (p.newRecord o expiresAt description).isExpired now = false ↔
      ∀ date, expiresAt = some date → now ≤ date := isExpired_eq_false_iff
  rw [told, ← exists_activeUser?_iff]
  refine ⟨?_, ?_, ?_, PresentedToken.ofText_ofRandom, fun _ _ _ => PresentedToken.ofText_signed⟩
  · show _ ↔ first.removedDuring o.apiTokenId later = false ∧
      (∀ date, expiresAt = some date → now ≤ date) ∧ _
    rw [← timely, ← and_assoc, ← Bool.or_eq_false_iff]
    cases first.removedDuring o.apiTokenId later ||
      (p.newRecord o expiresAt description).isExpired now with
    | true => simp
    | false =>
        cases last.activeUser? p.userId with
        | none => simp
        | some user => simp
  · intro q accepted
    split at accepted
    · cases accepted
    · split at accepted
      · cases accepted
      · rename_i user active
        obtain ⟨record, rfl, owner, -, -⟩ := Memory.exists_of_activeUser? active
        cases accepted
        exact ⟨owner, rfl, rfl, rfl, rfl, rfl⟩
  · intro e refused
    split at refused
    · exact (Except.error.inj refused).symm
    · split at refused
      · exact (Except.error.inj refused).symm
      · cases refused

/-- Alice in a session. -/
def aliceSession : Principal :=
  ⟨Token.accessClaims smallService.config 1000 "session" (alice none) [] 0 none .password, .session⟩

/-- A time and an id for a token. -/
def aliceErrand : Occasion :=
  ⟨1000, "", "", "", "errand", []⟩

/-- Alice makes a token with a date. -/
def aliceMakes : Deed :=
  .generate aliceSession aliceErrand none (some 2000) ""

/-- Alice's token is accepted on its date, and no longer once she has deleted it. -/
theorem aliceErrand_lifecycle :
    FreshTokens (smallStore none) [aliceMakes] ∧
    FreshTokens (smallStore none) [aliceMakes, .remove aliceSession "errand"] ∧
    ∃ g, ((aliceSession.generateApiToken aliceErrand none (some 2000) "").runOn
        (smallStore none)).1 = .ok g ∧
      (∃ q, ((smallService.authenticate 2000 (.ofText g.token)).runOn
        ((smallStore none).during [aliceMakes])).1 = .ok q) ∧
      ¬∃ q, ((smallService.authenticate 2000 (.ofText g.token)).runOn
        ((smallStore none).during [aliceMakes, .remove aliceSession "errand"])).1 = .ok q := by
  have single (later : List Deed) (ids : later.filterMap Deed.newId? = [])
      (texts : later.filterMap Deed.newText? = []) :
      FreshTokens (smallStore none) ([] ++ aliceMakes :: later) := by
    have onlyText : ([] ++ aliceMakes :: later).filterMap Deed.newText? =
        [Token.ApiToken.ofRandom aliceErrand.apiTokenRandom] := congrArg (_ :: ·) texts
    have onlyId : ([] ++ aliceMakes :: later).filterMap Deed.newId? = ["errand"] :=
      congrArg (_ :: ·) ids
    constructor
    · rw [onlyId]
      simp
    · rw [onlyText]
      simp
    · rw [onlyText]
      intro text htext other hother same
      rw [List.mem_singleton.1 htext, List.mem_singleton.1 hother]
    · intro text htext record hrecord
      cases hrecord
  have made : ((aliceSession.generateApiToken aliceErrand none (some 2000) "").runOn
      (smallStore none)).1 = .ok (Principal.newToken aliceErrand (some 2000) "" []) := by
    rw [Principal.runOn_generateApiToken]
    rfl
  have kept := single [] rfl rfl
  have removed := single [.remove aliceSession "errand"] rfl rfl
  refine ⟨kept, removed, _, made, ?_, ?_⟩
  · refine (apiToken_lifecycle kept made smallService 2000).1.2 ⟨rfl, ?_, ?_⟩
    · rintro date ⟨⟩
      decide
    · exact ⟨alice none, rfl, rfl⟩
  · intro accepted
    have gone := ((apiToken_lifecycle removed made smallService 2000).1.1 accepted).1
    cases gone

end Gatehouse.Access
