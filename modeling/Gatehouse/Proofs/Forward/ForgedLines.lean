import Gatehouse.Proofs.Forward.Portrait

/-!
# Deciding about delegated requests - Lines that a client makes up

A client can put any lines into the header of a request.  Only those with its credentials count: what
the others say has no part in who it is taken for, and none of it is handed on.

Main definitions:

- `Action.Alike`: two computations that ask the store the same, whatever they are told.
- `Request.SameAsk`: two requests that differ at most in lines without credentials.
- `Engine.Vouches`: what may be said of whoever makes a request, and what it is read from.

Main results:

- Theorem `Engine.decide_alike`: without a policy such requests get the same kind of decision.
- Theorem `Engine.vouches_of_allow`: all lines that are handed on are vouched for.
- Theorem `Engine.forged_lines_ignored`: clients cannot put in lines of their own.
-/

namespace Gatehouse.Store.Action

variable {α β γ δ σ : Type} {R : α → β → Prop} {S : γ → δ → Prop}

/-- Two computations ask the store the same, whatever they are told, and end with related values. -/
inductive Alike (R : α → β → Prop) : Action α → Action β → Prop where
  | done {a : α} {b : β} (related : R a b) : Alike R (.done a) (.done b)
  | query (q : Query) {next : Reply q → Action α} {next' : Reply q → Action β}
      (onward : ∀ reply, Alike R (next reply) (next' reply)) :
      Alike R (.query q next) (.query q next')

/-- A computation asks the same as itself. -/
theorem Alike.refl (x : Action α) : Alike Eq x x := by
  induction x with
  | done a => exact .done rfl
  | query q next ih => exact .query q ih

/-- What follows on related values has to ask the same. -/
theorem Alike.bind {x : Action α} {y : Action β} {f : α → Action γ} {g : β → Action δ}
    (first : Alike R x y) (second : ∀ a b, R a b → Alike S (f a) (g b)) :
    Alike S (x.bind f) (y.bind g) := by
  induction first with
  | done related => exact second _ _ related
  | query q _ ih => exact .query q ih

/-- Any store tells both the same and is left in the same state by both. -/
theorem Alike.run {x : Action α} {y : Action β} (h : Alike R x y)
    (answer : σ → (q : Query) → Reply q × σ) (s : σ) :
    R (x.run answer s).1 (y.run answer s).1 ∧ (x.run answer s).2 = (y.run answer s).2 := by
  induction h generalizing s with
  | done related => exact ⟨related, rfl⟩
  | query q _ ih => exact ih _ _

end Gatehouse.Store.Action

namespace Gatehouse.Forward

open Access (Flow PresentedToken Principal Profile Service)
open Http (Headers line?)
open Store (Action Memory Query Reply Role User)
open Token (Time)

variable {e : Engine} {now : Time} {m : Memory} {r r' : Request} {headers : Headers}

/-! ## What a request is taken from -/

theorem bearer?_congr {a b : Headers} (h : a.values "authorization" = b.values "authorization") :
    Http.bearer? a = Http.bearer? b := by
  unfold Http.bearer? Headers.first?
  rw [h]

theorem find?_congr {a b : Headers} (h : a.values "cookie" = b.values "cookie") (name : String) :
    Http.Cookie.find? a name = Http.Cookie.find? b name := by
  unfold Http.Cookie.find? Http.Cookie.pairs
  rw [h]

namespace Request

/-- Two requests ask for the same and present the same credentials. -/
structure SameAsk (r r' : Request) : Prop where
  method : r.method = r'.method
  scheme : r.scheme = r'.scheme
  host : r.host = r'.host
  path : r.path = r'.path
  query : r.query = r'.query
  client : r.client = r'.client
  authorization : r.headers.values "authorization" = r'.headers.values "authorization"
  cookies : r.headers.values "cookie" = r'.headers.values "cookie"

theorem SameAsk.url (h : r.SameAsk r') : r.url = r'.url := by
  unfold Request.url
  rw [h.scheme, h.host, h.path, h.query]

theorem url_ne_empty (r : Request) : r.url ≠ "" := by
  intro empty
  have chars := congrArg String.toList empty
  simp [url] at chars

theorem ne_empty_of_linkIn? {name link : String} (h : r.linkIn? name = some link) : link ≠ "" := by
  obtain ⟨found, -⟩ := Option.filter_eq_some_iff.1 h
  simp only [lineText?] at found
  split at found
  · cases found
  · rename_i text
    cases found
    simpa using text

/-- There is always somewhere to come back to. -/
theorem returnTarget_ne_empty (r : Request) : r.returnTarget ≠ "" := by
  unfold returnTarget
  split
  · exact r.url_ne_empty
  · cases called : (r.linkIn? "referer").or (r.linkIn? "origin") with
    | none => exact r.url_ne_empty
    | some link =>
        rcases Option.or_eq_some_iff.1 called with referer | ⟨-, origin⟩
        · exact ne_empty_of_linkIn? referer
        · exact ne_empty_of_linkIn? origin

end Request

/-! ## Kinds of decisions -/

/-- Two decisions are of the same kind: both let the request through with the same lines, both send
the user somewhere, both deny with the same status, or both are failures. -/
inductive Decision.SameKind : Decision → Decision → Prop where
  | allow (headers : Headers) : SameKind (.allow headers) (.allow headers)
  | redirect {location location' : String} {html html' : Bool} {cors cors' : Headers} :
      SameKind (.redirect location html cors) (.redirect location' html' cors')
  | deny (status : Nat) {lines lines' : Headers} : SameKind (.deny status lines) (.deny status lines')
  | error : SameKind .error .error

theorem denial_sameKind (r r' : Request) (status : Nat) :
    (denial r status .empty).SameKind (denial r' status .empty) :=
  .deny status

/-- Whether a user is sent somewhere depends on the template alone. -/
theorem redirection_sameKind (r r' : Request) (template : String) :
    (redirection r template).SameKind (redirection r' template) := by
  have somewhere (r : Request) : r.returnTarget.isEmpty = false := by
    simpa using r.returnTarget_ne_empty
  simp only [redirection, somewhere, Bool.or_false]
  by_cases blank : Text.isBlankText template = true
  · rw [if_pos blank, if_pos blank]
    exact denial_sameKind r r' 403
  · rw [if_neg blank, if_neg blank]
    exact .redirect

/-- Where an entry lets somebody in, one of its rules that match does. -/
theorem Entry.exists_of_verdict {entry : Entry} {client : Option Net.Address}
    {bearer : Option String} {grant : Grant} (h : entry.verdict client bearer = .allow grant) :
    ∃ rule ∈ entry.rules, rule.matches client bearer = true ∧ rule.grant? = some grant := by
  simp only [Entry.verdict] at h
  split at h
  · cases h
  · split at h
    · rename_i first
      cases h
      obtain ⟨rule, hit, granted⟩ := List.exists_of_findSome?_eq_some first
      obtain ⟨member, hits⟩ := List.mem_filter.1 hit
      exact ⟨rule, member, hits, granted⟩
    · cases h

namespace Engine

/-! ## Two requests at once -/

theorem verdict_congr (same : r.SameAsk r') : e.verdict r = e.verdict r' := by
  unfold verdict
  rw [same.method, same.url, same.client, bearer?_congr same.authorization]

theorem needsLogin_congr (same : r.SameAsk r') : e.needsLogin r = e.needsLogin r' := by
  unfold needsLogin
  rw [same.method, same.url]

theorem authenticateHeaders_congr (same : r.SameAsk r') :
    e.service.authenticateHeaders now r.headers = e.service.authenticateHeaders now r'.headers := by
  unfold Service.authenticateHeaders PresentedToken.ofHeaders?
  rw [bearer?_congr same.authorization, find?_congr same.cookies]

/-- Both requests are made by the same, or decided about in the same way. -/
inductive SameOutcome : Except Decision Identity → Except Decision Identity → Prop where
  | ok (identity : Identity) : SameOutcome (.ok identity) (.ok identity)
  | error {d d' : Decision} (kind : d.SameKind d') : SameOutcome (.error d) (.error d')

/-- Whoever is in need of a login is sent to the same page. -/
theorem strangers_alike (same : r.SameAsk r') (template : String) :
    SameOutcome
      (if e.needsLogin r then .error (redirection r template) else .ok .anonymous)
      (if e.needsLogin r' then .error (redirection r' template) else .ok .anonymous) := by
  rw [needsLogin_congr same]
  by_cases needed : e.needsLogin r' = true
  · rw [if_pos needed, if_pos needed]
    exact .error (redirection_sameKind r r' template)
  · rw [if_neg needed, if_neg needed]
    exact .ok _

theorem granted_alike (grant : Grant) :
    (identify.granted grant).Alike SameOutcome (identify.granted grant) := by
  refine Action.Alike.bind (Action.Alike.refl _) ?_
  rintro found - rfl
  cases found with
  | ok user => exact .done (.ok _)
  | error failure => exact .done (.error .error)

/-- Finding out who makes a request asks the store nothing about lines without credentials. -/
theorem identify_alike (same : r.SameAsk r') :
    (e.identify now r).Alike SameOutcome (e.identify now r') := by
  unfold identify
  rw [authenticateHeaders_congr same, verdict_congr same]
  refine Action.Alike.bind (Action.Alike.refl _) ?_
  rintro outcome - rfl
  cases outcome with
  | ok principal =>
      refine Action.Alike.bind (Action.Alike.refl _) ?_
      rintro found - rfl
      cases found with
      | ok user? =>
          cases user? with
          | some user => exact .done (.ok _)
          | none => exact .done (.error (denial_sameKind r r' 403))
      | error failure => exact .done (.error .error)
  | error failure =>
      cases failure with
      | unauthenticated | expired =>
          cases e.verdict r' with
          | allow grant => exact granted_alike grant
          | deny | silent => exact .done (strangers_alike same _)
      | permissionDenied | notFound | invalidArgument | internal =>
          cases e.verdict r' <;> exact .done (.error .error)

/-- Without a policy, two requests with the same credentials for the same thing get decisions of the
same kind. -/
theorem decide_alike (free : e.policy = none) (same : r.SameAsk r') :
    (e.decide now r).Alike (fun a b => a.decision.SameKind b.decision) (e.decide now r') := by
  unfold decide
  rw [same.method, verdict_congr same]
  split
  · exact .done (.allow _)
  · split
    · exact .done (denial_sameKind r r' 403)
    · refine Action.Alike.bind (identify_alike same) ?_
      rintro _ _ (identity | kind)
      · refine Action.Alike.bind (Action.Alike.refl _) ?_
        rintro described - rfl
        cases described with
        | ok portrait =>
            refine .done ?_
            simp only [applyPolicy, free]
            exact .allow _
        | error failure => exact .done .error
      · exact .done kind

/-! ## What is handed on -/

/-- What a record says of its user, and under which name. -/
inductive Attests (e : Engine) (m : Memory) (record : User) : String → String → Prop where
  | id : Attests e m record "remote-user-id" record.id
  | username : Attests e m record "remote-user" record.username
  | displayName : Attests e m record "remote-display-name" record.shownName
  | mail {email : Store.StoredEmail} (primary : m.primaryEmail? record.id = some email) :
      Attests e m record "remote-mail" email.address
  | mailVerified {email : Store.StoredEmail} (primary : m.primaryEmail? record.id = some email) :
      Attests e m record "remote-mail-verified" (if email.verified then "true" else "false")
  | avatar : Attests e m record "remote-avatar-url"
      (e.service.config.publicUrl ++ "/avatar/" ++ record.id)

/-- A rule lets in whoever makes a request, for want of credentials that count. -/
structure LetsIn (e : Engine) (now : Time) (m : Memory) (r : Request) (grant : Grant) : Prop where
  stranger : e.IsStranger now m r
  verdict : e.verdict r = .allow grant
  rule : ∃ entry rule, e.rules.entryFor? r.method r.url = some entry ∧ rule ∈ entry.rules ∧
    rule.matches r.client (Http.bearer? r.headers) = true ∧ rule.grant? = some grant

/-- What may be said of whoever makes a request, and under which name. -/
inductive Vouches (e : Engine) (now : Time) (m : Memory) (r : Request) : String → String → Prop where
  /-- The record of the user whose credential the request presents. -/
  | user {p : Principal} {record : User} {name text : String}
      (authentic : e.authentication now m r = .ok p)
      (stored : m.users.find? p.userId = some record) (active : record.deleted = false)
      (attests : e.Attests m record name text) : Vouches e now m r name text
  | role {p : Principal} {role : Role} (authentic : e.authentication now m r = .ok p)
      (held : role ∈ p.rolesIn m) : Vouches e now m r "remote-role" role.id
  /-- The record of the subject of a rule. -/
  | subject {grant : Grant} {record : User} {name text : String} (letsIn : e.LetsIn now m r grant)
      (stored : m.users.find? grant.subject = some record) (active : record.deleted = false)
      (attests : e.Attests m record name text) : Vouches e now m r name text
  | grantedRole {grant : Grant} {id : String} (letsIn : e.LetsIn now m r grant)
      (granted : id ∈ grant.roles) : Vouches e now m r "remote-role" id
  /-- The name that a rule gives to a subject of whom there is no record. -/
  | grantedName {grant : Grant} (letsIn : e.LetsIn now m r grant)
      (unknown : m.activeUser? grant.subject = none) :
      Vouches e now m r "remote-user-id" grant.subject

/-- What the entries say that describe the user of a profile. -/
theorem cases_of_mem_userEntries {profile : Profile} {entry : String × String}
    (h : entry ∈ e.userEntries profile) :
    entry = ("remote-user-id", profile.id) ∨ entry = ("remote-user", profile.username) ∨
    entry = ("remote-display-name", profile.displayName) ∨
    (∃ address, profile.email = some address ∧
      (entry = ("remote-mail", address) ∨
        entry = ("remote-mail-verified", if profile.emailVerified then "true" else "false"))) ∨
    entry = ("remote-avatar-url", e.service.config.publicUrl ++ "/avatar/" ++ profile.id) := by
  simp only [userEntries, List.mem_append, List.mem_cons, List.not_mem_nil, or_false] at h
  rcases h with (((id | username) | named) | mailed) | avatar
  · exact .inl id
  · exact .inr (.inl username)
  · split at named
    · cases named
    · exact .inr (.inr (.inl (List.mem_singleton.1 named)))
  · split at mailed
    · rename_i address known
      refine .inr (.inr (.inr (.inl ⟨address, known, ?_⟩)))
      simpa using mailed
    · cases mailed
  · exact .inr (.inr (.inr (.inr avatar)))

/-- The entries that describe a user say what the record says. -/
theorem attests_of_mem {p : Principal} {record : User} {name text : String}
    (h : (name, text) ∈ e.userEntries (p.profileIn m (m.withEmail record))) :
    e.Attests m record name text := by
  rcases cases_of_mem_userEntries h with id | username | shown | ⟨address, known, mail⟩ | avatar
  · cases id
    exact .id
  · cases username
    exact .username
  · cases shown
    exact .displayName
  · obtain ⟨email, primary, rfl⟩ : ∃ email, m.primaryEmail? record.id = some email ∧
        email.address = address := Option.map_eq_some_iff.1 known
    have verified : (p.profileIn m (m.withEmail record)).emailVerified = email.verified :=
      congrArg (Option.any fun email : Store.StoredEmail => email.verified) primary
    rcases mail with mail | mail
    · cases mail
      exact .mail primary
    · rw [verified] at mail
      cases mail
      exact .mailVerified primary
  · cases avatar
    exact .avatar

/-- The entry for a role that a rule grants. -/
def grantedEntries (grant : Grant) : List (String × String) :=
  grant.roles.map fun id => ("remote-role", id)

/-- The principal of whom a rule says just who it is. -/
def granted (grant : Grant) : Principal :=
  ⟨⟨"", "", "", 0, 0, 0, grant.subject, "", "", "", [], none⟩, .session⟩

/-- The subject of a rule is described by the roles that the rule grants and by the profile of the
user, if there is one. -/
theorem portrait_granted (grant : Grant) (user : Option User) :
    (e.portrait m (.subject grant user)).1 =
      withEntries .empty (grantedEntries grant ++
        match user with
        | some user => e.userEntries ((granted grant).profileIn m user)
        | none => [("remote-user-id", grant.subject)]) := by
  have roles : roleLines .empty grant.roles = withEntries .empty (grantedEntries grant) := by
    rw [roleLines, withEntries, grantedEntries, List.foldl_map]
  have described := runOn_describe (e := e) (m := m) (.subject grant user)
  rw [describe] at described
  rw [Flow.runOn_bind_ok (runOn_permissionsFor _)] at described
  rw [withEntries_append, ← roles]
  cases user with
  | none => exact (congrArg Prod.fst (Except.ok.inj (congrArg Prod.fst described))).symm
  | some user =>
      rw [Flow.runOn_bind_ok (runOn_userLines _ (granted grant))] at described
      exact (congrArg Prod.fst (Except.ok.inj (congrArg Prod.fst described))).symm

/-- The rule is known that lets somebody in. -/
theorem letsIn_of_verdict {grant : Grant} (stranger : e.IsStranger now m r)
    (h : e.verdict r = .allow grant) : e.LetsIn now m r grant := by
  refine ⟨stranger, h, ?_⟩
  unfold verdict at h
  cases covers : e.rules.entryFor? r.method r.url with
  | none =>
      rw [covers] at h
      cases h
  | some entry =>
      rw [covers] at h
      obtain ⟨rule, member, hits⟩ := Entry.exists_of_verdict h
      exact ⟨entry, rule, rfl, member, hits⟩

/-- What is said of the user of a credential is vouched for. -/
theorem vouches_of_mem_user {p : Principal} {user : User} {line : String × Bytes}
    (authentic : e.authentication now m r = .ok p) (active : m.activeUser? p.userId = some user)
    (mem : line ∈ (e.portrait m (.user p user)).1.lines) :
    ∃ name text, e.Vouches now m r name text ∧ line? name text = some line := by
  obtain ⟨record, rfl, -, stored, live⟩ := Memory.exists_of_activeUser? active
  rw [portrait_lines] at mem
  obtain ⟨⟨name, text⟩, entry, made⟩ := List.mem_filterMap.1 mem
  refine ⟨name, text, ?_, made⟩
  rcases List.mem_append.1 entry with recorded | held
  · exact .user authentic stored live (attests_of_mem recorded)
  · obtain ⟨role, mine, named⟩ := List.mem_map.1 held
    cases named
    exact .role authentic mine

/-- What is said of the subject of a rule is vouched for. -/
theorem vouches_of_mem_subject {grant : Grant} {line : String × Bytes}
    (letsIn : e.LetsIn now m r grant)
    (mem : line ∈ (e.portrait m (.subject grant (m.activeUser? grant.subject))).1.lines) :
    ∃ name text, e.Vouches now m r name text ∧ line? name text = some line := by
  rw [portrait_granted, withEntries, Headers.lines_foldl_appendText] at mem
  obtain ⟨⟨name, text⟩, entry, made⟩ := List.mem_filterMap.1 mem
  refine ⟨name, text, ?_, made⟩
  rcases List.mem_append.1 entry with granted | described
  · obtain ⟨id, mine, named⟩ := List.mem_map.1 granted
    cases named
    exact .grantedRole letsIn mine
  · cases known : m.activeUser? grant.subject with
    | none =>
        rw [known] at described
        cases List.mem_singleton.1 described
        exact .grantedName letsIn known
    | some user =>
        rw [known] at described
        obtain ⟨record, rfl, -, stored, live⟩ := Memory.exists_of_activeUser? known
        exact .subject letsIn stored live (attests_of_mem described)

/-- All that is said of whoever makes a request is vouched for. -/
theorem vouches_of_mem {identity : Identity} {line : String × Bytes}
    (h : e.identified m r (e.authentication now m r) (e.verdict r) = .ok identity)
    (mem : line ∈ (e.portrait m identity).1.lines) :
    ∃ name text, e.Vouches now m r name text ∧ line? name text = some line := by
  rcases cases_of_identified h with ⟨p, user, authentic, active, rfl⟩ |
    ⟨stranger, ⟨grant, allowed, rfl⟩ | ⟨-, -, rfl⟩⟩
  · exact vouches_of_mem_user authentic active mem
  · exact vouches_of_mem_subject (letsIn_of_verdict stranger allowed) mem
  · cases mem

/-- The names of what is said may stand in a header as they are. -/
theorem fieldName?_of_vouches {name text : String} (h : e.Vouches now m r name text) :
    Http.fieldName? name = some name := by
  have attested {record : User} {name text : String} (h : e.Attests m record name text) :
      Http.fieldName? name = some name := by
    cases h <;> rfl
  cases h with
  | user _ _ _ attests => exact attested attests
  | subject _ _ _ attests => exact attested attests
  | role | grantedRole | grantedName => rfl

/-- All lines that are handed on are vouched for. -/
theorem vouches_of_allow (free : e.policy = none)
    (h : ((e.decide now r).run Memory.answer m).1.decision = .allow headers) :
    ∀ line ∈ headers.lines, ∃ text, e.Vouches now m r line.1 text ∧ line.2 = utf8 text := by
  intro line mem
  rw [decide] at h
  split at h
  · cases h
    cases mem
  · split at h
    · cases h
    · rw [run_decideUndenied] at h
      cases result : e.identified m r (e.authentication now m r) (e.verdict r) with
      | error decision =>
          rw [result] at h
          exact absurd h (identified_error_ne_allow result)
      | ok identity =>
          rw [result] at h
          simp only [applyPolicy, free] at h
          cases h
          obtain ⟨name, text, vouched, made⟩ := vouches_of_mem result mem
          obtain ⟨named, value⟩ := Http.of_line?_eq_some made
          cases (fieldName?_of_vouches vouched).symm.trans named
          exact ⟨text, vouched, value⟩

/-- Without a policy, clients cannot put in lines of their own.  Two requests that ask for the same
with the same credentials get decisions of the same kind, with the same lines if they are let through,
and leave the store in the same state, whatever the store says and whatever else stands in their
headers.  With the store in memory, every line that is handed on says what the record of the user of
the credential says, or a role of the principal, or what a rule grants that lets strangers in and the
record of its subject says. -/
theorem forged_lines_ignored (free : e.policy = none) (now : Time) (r : Request) :
    (∀ r', r.SameAsk r' → ∀ {σ : Type} (answer : σ → (q : Query) → Reply q × σ) (s : σ),
      ((e.decide now r).run answer s).1.decision.SameKind
        ((e.decide now r').run answer s).1.decision ∧
      ((e.decide now r).run answer s).2 = ((e.decide now r').run answer s).2) ∧
    (∀ m headers, ((e.decide now r).run Memory.answer m).1.decision = .allow headers →
      ∀ line ∈ headers.lines, ∃ text, e.Vouches now m r line.1 text ∧ line.2 = utf8 text) := by
  constructor
  · intro r' same σ answer s
    exact (decide_alike free same).run answer s
  · intro m headers allowed
    exact vouches_of_allow free allowed

/-- The engine of the house without its policy. -/
def openHouse : Engine :=
  { houseEngine with policy := none }

/-- What is said of the robot from outside. -/
def robotLines : Headers :=
  ⟨[("remote-role", utf8 "reader"), ("remote-user-id", utf8 "robot")]⟩

/-- The request of the robot from outside, which pretends to be another one from within. -/
def forgedRequest : Request :=
  { robotRequest (.v4 0x0B000001) with
    headers := ⟨[("remote-user-id", utf8 "alice"), ("authorization", utf8 "Bearer open"),
      ("remote-role", utf8 "admin"), ("x-forwarded-for", utf8 "10.0.0.1")]⟩ }

/-- The robot is let through as the robot, whatever it pretends to be. -/
theorem openHouse_forgedRequest :
    openHouse.policy = none ∧ (robotRequest (.v4 0x0B000001)).SameAsk forgedRequest ∧
    ((openHouse.decide 1000 forgedRequest).run Memory.answer .empty).1.decision =
      .allow robotLines ∧
    ∀ line ∈ robotLines.lines, ∃ text,
      openHouse.Vouches 1000 .empty forgedRequest line.1 text ∧ line.2 = utf8 text := by
  have same : (robotRequest (.v4 0x0B000001)).SameAsk forgedRequest := by
    constructor <;> rfl
  have honest : ((openHouse.decide 1000 (robotRequest (.v4 0x0B000001))).run Memory.answer
      .empty).1.decision = .allow robotLines := by
    decide +kernel
  have alike := ((forged_lines_ignored (e := openHouse) rfl 1000 _).1 _ same Memory.answer .empty).1
  rw [honest] at alike
  generalize decided : ((openHouse.decide 1000 forgedRequest).run Memory.answer .empty).1.decision
    = decision at alike
  cases alike
  exact ⟨rfl, same, rfl, (forged_lines_ignored rfl 1000 forgedRequest).2 _ _ decided⟩

end Engine

end Gatehouse.Forward
