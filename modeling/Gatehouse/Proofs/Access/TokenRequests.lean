import Gatehouse.Proofs.Access.ApiTokens
import Gatehouse.Proofs.Store.Listing

/-!
# Requests about API tokens

Users make, list and delete their API tokens.  Such a request asks the store one query after the
other, and between two of them other requests can go on.  It asks few queries, and each of them has
one of three effects: it reads, it puts a token of the user in, or it takes one out.

Main definitions:

- `TokenRequest` and `TokenRequest.program`: the requests, and what they ask.
- `TokenThread`: a request that is being served or has been served.
- `TokenThread.Stage`: how far a request can have come.
- `TokenThread.Served`: what a query of a thread does to the store.

Main results:

- Theorem `TokenRequest.program_generate`, theorem `TokenRequest.program_list` and theorem
  `TokenRequest.program_remove`: the queries of each request.
- Theorem `TokenThread.stage_start`: where a request starts.
- Theorem `TokenThread.served`: what each of its queries does, and how far it has come then.
-/

namespace Gatehouse.Access

open Store (Action ApiTokenRecord Asking Failure Memory Query Reply Role)
open Token (Time)

/-- What goes on until there is a result of some type. -/
abbrev Program (α : Type) : Type := Action (Except Error α)

namespace Flow

variable {α β : Type}

/-- Go on with what the store says, or end with its failure. -/
def orFail (next : α → Program β) : Except Failure α → Program β
  | .ok a => next a
  | .error f => .done (.error (.ofStore f))

/-- A flow up to what is told of its result. -/
def program (outcome : α → β) (x : Flow α) : Program β :=
  x.run.bind fun result => .done (result.map outcome)

/-- A flow that fetches something asks for it and goes on with it. -/
theorem program_fetch_bind (outcome : α → β) (q : Query) (f : q.Answer → Flow α) :
    Flow.program outcome (fetch (Asking.send q) >>= f) =
      .query q (orFail fun a => (f a).program outcome) := by
  refine congrArg (Action.query q) (funext fun reply => ?_)
  cases reply <;> rfl

end Flow

/-! ## Requests -/

/-- A request about the API tokens of its principal's user. -/
inductive TokenRequest where
  | generate (p : Principal) (o : Occasion) (wanted : Option (List String))
      (expiresAt : Option Time) (description : String)
  | list (p : Principal)
  | remove (p : Principal) (tokenId : String)

/-- What a request is told that ends well. -/
inductive TokenOutcome where
  | generated (token : GeneratedApiToken)
  | listed (tokens : List ApiTokenSummary)
  | removed
  deriving DecidableEq, Repr

namespace TokenRequest

/-- Who makes the request. -/
def principal : TokenRequest → Principal
  | .generate p .. | .list p | .remove p _ => p

/-- The user whose tokens the request is about. -/
def userId (r : TokenRequest) : String := r.principal.userId

/-- The id that is given to a new token. -/
def newId? : TokenRequest → Option String
  | .generate _ o .. => some o.apiTokenId
  | .list _ | .remove .. => none

/-- The text that is given to a new token. -/
def newText? : TokenRequest → Option String
  | .generate _ o .. => some (Token.ApiToken.ofRandom o.apiTokenRandom)
  | .list _ | .remove .. => none

/-- What the request asks, and what it is told in the end. -/
def program : TokenRequest → Program TokenOutcome
  | .generate p o wanted expiresAt description =>
    (p.generateApiToken o wanted expiresAt description).program .generated
  | .list p => p.listApiTokens.program .listed
  | .remove p tokenId => (p.removeApiToken tokenId).program fun _ => .removed

end TokenRequest

/-- The record of a token that a user was told of. -/
def GeneratedApiToken.record (g : GeneratedApiToken) (userId : String) (now : Time) :
    ApiTokenRecord where
  id := g.id
  digest := Token.ApiToken.digest g.token
  redacted := Token.ApiToken.redacted g.token
  description := g.description
  userId := userId
  createdAt := now
  expiresAt := g.expiresAt

/-- A token as its user finds it in a listing later on. -/
def GeneratedApiToken.summary (g : GeneratedApiToken) (now : Time) : ApiTokenSummary where
  id := g.id
  redacted := Token.ApiToken.redacted g.token
  description := g.description
  createdAt := now
  expiresAt := g.expiresAt
  roles := g.roles

/-- A record as it is listed. -/
def ApiTokenSummary.ofRecord (t : ApiTokenRecord) (roles : List Role) : ApiTokenSummary :=
  ⟨t.id, t.redacted, t.description, t.createdAt, t.expiresAt, roles⟩

/-- The record of a token of the store, with its roles, as it is listed. -/
def summaryIn (m : Memory) (t : ApiTokenRecord) : ApiTokenSummary :=
  .ofRecord t (m.rolesOf (m.apiTokenRoles.find? t.id))

/-- A user is told of the tokens that the store has of the user. -/
theorem Principal.runOn_listApiTokens (p : Principal) (m : Memory) :
    p.listApiTokens.runOn m = (.ok ((m.apiTokensOf p.userId).map (summaryIn m)), m) := by
  have asked : (Flow.fetch (Asking.apiTokensOfUser p.userId)).runOn m =
      (.ok (m.apiTokensOf p.userId), m) := Flow.runOn_fetch rfl
  rw [listApiTokens, Flow.runOn_bind_ok asked]
  refine Flow.runOn_mapM (fun t => ?_) _
  have roles : (Flow.fetch (Asking.rolesOfApiToken t.id)).runOn m =
      (.ok (m.rolesOf (m.apiTokenRoles.find? t.id)), m) := Flow.runOn_fetch rfl
  exact Flow.runOn_bind_ok roles

/-! ## What requests ask -/

namespace TokenRequest

/-- Put a token in that gets the granted roles. -/
def storing (p : Principal) (o : Occasion) (expiresAt : Option Time) (description : String)
    (granted : List Role) : Program TokenOutcome :=
  .query (.addApiToken (p.newRecord o expiresAt description) (granted.map (·.id)))
    (Flow.orFail fun _ =>
      .done (.ok (.generated (Principal.newToken o expiresAt description granted))))

/-- Choose among the roles of the user and put a token in. -/
def choosing (p : Principal) (o : Occasion) (wanted : Option (List String))
    (expiresAt : Option Time) (description : String) : Program TokenOutcome :=
  .query (.rolesOfUser p.userId) (Flow.orFail fun available =>
    match grantedRoles available wanted with
    | .ok granted => storing p o expiresAt description granted
    | .error e => .done (.error e))

/-- Ask for the roles of some tokens, when those of some others are known. -/
def summarizing (known : List ApiTokenSummary) : List ApiTokenRecord → Program TokenOutcome
  | [] => .done (.ok (.listed known.reverse))
  | t :: tokens =>
    .query (.rolesOfApiToken t.id) (Flow.orFail fun roles =>
      summarizing (.ofRecord t roles :: known) tokens)

/-- Ask for the tokens of a user and for their roles. -/
def listing (p : Principal) : Program TokenOutcome :=
  .query (.apiTokensOfUser p.userId) (Flow.orFail (summarizing []))

/-- Take a token out. -/
def removing (p : Principal) (tokenId : String) : Program TokenOutcome :=
  .query (.removeApiToken tokenId p.userId) (Flow.orFail fun removed : Nat =>
    .done (if removed = 0 then .error (.notFound ("API token " ++ tokenId)) else .ok .removed))

theorem program_generate (p : Principal) (o : Occasion) (wanted : Option (List String))
    (expiresAt : Option Time) (description : String) :
    (generate p o wanted expiresAt description).program =
      if p.isApiToken then
        .done (.error (.permissionDenied "API tokens cannot create API tokens"))
      else if expiresAt.any (· ≤ o.now) then
        .done (.error (.invalidArgument "expiry must be in the future"))
      else choosing p o wanted expiresAt description := by
  show (p.generateApiToken o wanted expiresAt description).program TokenOutcome.generated = _
  unfold Principal.generateApiToken
  cases p.isApiToken with
  | true => rfl
  | false =>
      simp only [Bool.false_eq_true, if_false]
      cases expiresAt.any (· ≤ o.now) with
      | true => rfl
      | false =>
          simp only [Bool.false_eq_true, if_false]
          refine (Flow.program_fetch_bind _ _ _).trans ?_
          refine congrArg (Action.query _) (congrArg Flow.orFail (funext fun available => ?_))
          cases grantedRoles available wanted with
          | error e => rfl
          | ok granted => exact Flow.program_fetch_bind _ _ _

theorem program_list (p : Principal) : (list p).program = listing p := by
  refine (Flow.program_fetch_bind _ _ _).trans ?_
  refine congrArg (Action.query _) (congrArg Flow.orFail (funext fun tokens : List _ => ?_))
  have loop (known : List ApiTokenSummary) :
      (List.mapM.loop (fun t : ApiTokenRecord => do
        let roles ← Flow.fetch (Asking.rolesOfApiToken t.id)
        return .ofRecord t roles) tokens known : Flow (List ApiTokenSummary)).program .listed =
      summarizing known tokens := by
    induction tokens generalizing known with
    | nil => rfl
    | cons t tokens ih =>
        refine congrArg (Action.query (.rolesOfApiToken t.id)) (funext fun reply => ?_)
        cases reply with
        | error f => rfl
        | ok roles => exact ih _
  exact loop []

theorem program_remove (p : Principal) (tokenId : String) :
    (remove p tokenId).program = removing p tokenId := by
  refine (Flow.program_fetch_bind _ _ _).trans ?_
  refine congrArg (Action.query _) (congrArg Flow.orFail (funext fun removed : Nat => ?_))
  cases removed <;> rfl

end TokenRequest

/-! ## Threads -/

/-- A request that is being served or has been served, and how it goes on. -/
structure TokenThread where
  request : TokenRequest
  rest : Program TokenOutcome

namespace TokenThread

open TokenRequest

variable {m m₀ m' : Memory} {ids ids' : List String} {x x' : TokenThread} {p : Principal}
  {o : Occasion} {wanted : Option (List String)} {expiresAt : Option Time} {description : String}
  {g : GeneratedApiToken} {now : Time} {granted : List Role}

/-- A request that has just arrived. -/
def start (r : TokenRequest) : TokenThread := ⟨r, r.program⟩

/-- The token that the user was told of, and when it was made. -/
def made? : TokenThread → Option (GeneratedApiToken × Time)
  | ⟨.generate _ o _ _ _, .done (.ok (.generated g))⟩ => some (g, o.now)
  | _ => none

/-- The id of the token that was deleted. -/
def removed? : TokenThread → Option String
  | ⟨.remove _ tokenId, .done (.ok .removed)⟩ => some tokenId
  | _ => none

/-- Ask the next query, unless the request has been served. -/
def ask (x : TokenThread) (m : Memory) : TokenThread × Memory :=
  match x.rest with
  | .done _ => (x, m)
  | .query q next => (⟨x.request, next (m.answer q).1⟩, (m.answer q).2)

@[simp] theorem request_ask (x : TokenThread) (m : Memory) : (x.ask m).1.request = x.request := by
  unfold ask
  split <;> rfl

/-- No query changes the records that only the upkeep of the store changes. -/
theorem sameRecords_ask (x : TokenThread) (m : Memory) : m.SameRecords (x.ask m).2 := by
  unfold ask
  split
  · exact .refl m
  · exact Memory.sameRecords_answer m _

/-- How a thread can go on, with the roles that it finds in the store `m`.  A listing asks for the
roles of tokens whose ids are among `ids`. -/
inductive Stage (m : Memory) (ids : List String) : TokenThread → Prop where
  | choosing {p : Principal} {o : Occasion} {wanted : Option (List String)}
      {expiresAt : Option Time} {description : String} :
      Stage m ids ⟨.generate p o wanted expiresAt description,
        choosing p o wanted expiresAt description⟩
  | storing {p : Principal} {o : Occasion} {wanted : Option (List String)}
      {expiresAt : Option Time} {description : String} {granted : List Role}
      (chosen : grantedRoles (m.rolesOf (m.assignments.find? p.userId)) wanted = .ok granted) :
      Stage m ids ⟨.generate p o wanted expiresAt description,
        storing p o expiresAt description granted⟩
  | generated {p : Principal} {o : Occasion} {wanted : Option (List String)}
      {expiresAt : Option Time} {description : String} {granted : List Role}
      (chosen : grantedRoles (m.rolesOf (m.assignments.find? p.userId)) wanted = .ok granted) :
      Stage m ids ⟨.generate p o wanted expiresAt description,
        .done (.ok (.generated (Principal.newToken o expiresAt description granted)))⟩
  | listing {p : Principal} : Stage m ids ⟨.list p, listing p⟩
  | summarizing {p : Principal} {known : List ApiTokenSummary} {tokens : List ApiTokenRecord}
      (own : ∀ t ∈ tokens, t.id ∈ ids) : Stage m ids ⟨.list p, summarizing known tokens⟩
  | removing {p : Principal} {tokenId : String} :
      Stage m ids ⟨.remove p tokenId, removing p tokenId⟩
  | removed {p : Principal} {tokenId : String} :
      Stage m ids ⟨.remove p tokenId, .done (.ok .removed)⟩
  | failed {r : TokenRequest} {e : Error} : Stage m ids ⟨r, .done (.error e)⟩

/-- A request starts at its first query or fails at once. -/
theorem stage_start (m : Memory) (ids : List String) (r : TokenRequest) :
    (start r).Stage m ids := by
  unfold start
  cases r with
  | generate p o wanted expiresAt description =>
      rw [program_generate]
      split
      · exact .failed
      · split
        · exact .failed
        · exact .choosing
  | list p =>
      rw [program_list]
      exact .listing
  | remove p tokenId =>
      rw [program_remove]
      exact .removing

/-- Nothing has been made or deleted before the first query. -/
theorem made?_start (r : TokenRequest) : (start r).made? = none ∧ (start r).removed? = none := by
  unfold start
  cases r with
  | generate p o wanted expiresAt description =>
      rw [program_generate]
      split
      · exact ⟨rfl, rfl⟩
      · split <;> exact ⟨rfl, rfl⟩
  | list p => exact ⟨rfl, rfl⟩
  | remove p tokenId =>
      rw [program_remove]
      exact ⟨rfl, rfl⟩

theorem Stage.mono (stage : x.Stage m ids) (more : ids ⊆ ids') : x.Stage m ids' := by
  cases stage with
  | choosing => exact .choosing
  | storing chosen => exact .storing chosen
  | generated chosen => exact .generated chosen
  | listing => exact .listing
  | summarizing own => exact .summarizing fun t ht => more (own t ht)
  | removing => exact .removing
  | removed => exact .removed
  | failed => exact .failed

/-- A user is told of a token with the id, the text and roles that were given to it. -/
theorem Stage.given (stage : x.Stage m ids) (made : x.made? = some (g, now)) :
    x.request.newId? = some g.id ∧ x.request.newText? = some g.token ∧
      ∀ role ∈ g.roles, m.roles.find? role.id = some role := by
  cases stage with
  | generated chosen =>
      obtain ⟨rfl, rfl⟩ := Prod.mk.inj (Option.some.inj made)
      refine ⟨rfl, rfl, fun role hrole => ?_⟩
      exact Memory.find?_of_mem_rolesOf (mem_of_grantedRoles chosen role hrole)
  | @failed r e => cases r <;> cases made
  | _ => cases made

/-! ## Queries of a thread -/

/-- A thread goes on with the answer of the store. -/
theorem ask_of_answer {r : TokenRequest} {q : Query} {next : Reply q → Program TokenOutcome}
    {reply : Reply q} (answered : m.answer q = (reply, m')) :
    (TokenThread.mk r (.query q next)).ask m = (⟨r, next reply⟩, m') := by
  show (TokenThread.mk r (next (m.answer q).1), (m.answer q).2) = _
  rw [answered]

/-- The roles of a user are those that the user had from the start. -/
theorem ask_choosing (same : m₀.SameRecords m) :
    (TokenThread.mk (.generate p o wanted expiresAt description)
        (choosing p o wanted expiresAt description)).ask m =
      (⟨.generate p o wanted expiresAt description,
        match grantedRoles (m₀.rolesOf (m₀.assignments.find? p.userId)) wanted with
        | .ok granted => storing p o expiresAt description granted
        | .error e => .done (.error e)⟩, m) := by
  have roles : m.rolesOf (m.assignments.find? p.userId) =
      m₀.rolesOf (m₀.assignments.find? p.userId) := by
    rw [Memory.rolesOf, Memory.rolesOf, same.roles, same.assignments]
  rw [← roles]
  exact ask_of_answer rfl

/-- A token is stored with roles that its user has. -/
theorem ask_storing (same : m₀.SameRecords m)
    (chosen : grantedRoles (m₀.rolesOf (m₀.assignments.find? p.userId)) wanted = .ok granted) :
    (TokenThread.mk (.generate p o wanted expiresAt description)
        (storing p o expiresAt description granted)).ask m =
      (⟨.generate p o wanted expiresAt description,
        .done (.ok (.generated (Principal.newToken o expiresAt description granted)))⟩,
        m.withApiToken (p.newRecord o expiresAt description) (granted.map (·.id))) := by
  have known : ∀ id ∈ granted.map (·.id), m.roles.contains id = true := by
    rw [same.roles]
    exact contains_of_grantedRoles chosen
  have stored : m.answer (.addApiToken (p.newRecord o expiresAt description)
      (granted.map (·.id))) = (.ok (), _) := Memory.addApiToken_of_known known
  exact ask_of_answer stored

theorem ask_listing (p : Principal) (m : Memory) :
    (TokenThread.mk (.list p) (listing p)).ask m =
      (⟨.list p, summarizing [] (m.apiTokensOf p.userId)⟩, m) := ask_of_answer rfl

theorem ask_summarizing (p : Principal) (known : List ApiTokenSummary) (t : ApiTokenRecord)
    (tokens : List ApiTokenRecord) (m : Memory) :
    (TokenThread.mk (.list p) (summarizing known (t :: tokens))).ask m =
      (⟨.list p, summarizing (summaryIn m t :: known) tokens⟩, m) :=
  ask_of_answer rfl

/-- The owner of a token takes it out, and everybody else is told that there is none. -/
theorem ask_removing (p : Principal) (tokenId : String) (m : Memory) :
    (TokenThread.mk (.remove p tokenId) (removing p tokenId)).ask m =
      if m.ownsApiToken p.userId tokenId then
        (⟨.remove p tokenId, .done (.ok .removed)⟩, m.withoutApiToken tokenId)
      else
        (⟨.remove p tokenId, .done (.error (.notFound ("API token " ++ tokenId)))⟩, m) := by
  have answered : m.answer (.removeApiToken tokenId p.userId) =
      (.ok (m.removeApiToken tokenId p.userId).1, (m.removeApiToken tokenId p.userId).2) := rfl
  refine (ask_of_answer answered).trans ?_
  rw [Memory.removeApiToken_eq]
  cases m.ownsApiToken p.userId tokenId <;> rfl

/-- What a query of a thread does to the store `m`, if it is asked at all. -/
inductive Served (m : Memory) (x x' : TokenThread) : Memory → Prop where
  | reads (made : x'.made? = x.made?) (removed : x'.removed? = x.removed?) : Served m x x' m
  | makes {g : GeneratedApiToken} {now : Time} (unmade : x.made? = none)
      (made : x'.made? = some (g, now)) (removed : x'.removed? = x.removed?) :
      Served m x x' (m.withApiToken (g.record x.request.userId now) (g.roles.map (·.id)))
  | removes {tokenId : String} (kept : x.removed? = none) (removed : x'.removed? = some tokenId)
      (made : x'.made? = x.made?) (owner : m.ownsApiToken x.request.userId tokenId = true) :
      Served m x x' (m.withoutApiToken tokenId)

/-- A thread asks a query that has one of the three effects and comes one stage further. -/
theorem served (same : m₀.SameRecords m)
    (own : ∀ record ∈ m.apiTokens.data, record.userId = x.request.userId → record.id ∈ ids)
    (stage : x.Stage m₀ ids) :
    (x.ask m).1.Stage m₀ ids ∧ Served m x (x.ask m).1 (x.ask m).2 := by
  cases stage with
  | @choosing p o wanted expiresAt description =>
      rw [ask_choosing same]
      cases chosen : grantedRoles (m₀.rolesOf (m₀.assignments.find? p.userId)) wanted with
      | error e => exact ⟨.failed, .reads rfl rfl⟩
      | ok granted => exact ⟨.storing chosen, .reads rfl rfl⟩
  | @storing p o wanted expiresAt description granted chosen =>
      rw [ask_storing same chosen]
      refine ⟨.generated chosen, ?_⟩
      exact .makes (g := Principal.newToken o expiresAt description granted) rfl rfl rfl
  | generated chosen => exact ⟨.generated chosen, .reads rfl rfl⟩
  | @listing p =>
      rw [ask_listing]
      refine ⟨.summarizing fun t ht => ?_, .reads rfl rfl⟩
      obtain ⟨stored, owner⟩ := Memory.mem_apiTokensOf.1 ht
      exact own t stored owner
  | @summarizing p known tokens listed =>
      cases tokens with
      | nil => exact ⟨.summarizing listed, .reads rfl rfl⟩
      | cons t tokens =>
          rw [ask_summarizing]
          refine ⟨.summarizing fun t' ht' => ?_, .reads rfl rfl⟩
          exact listed t' (List.mem_cons_of_mem t ht')
  | @removing p tokenId =>
      rw [ask_removing]
      cases owner : m.ownsApiToken p.userId tokenId with
      | true => exact ⟨.removed, .removes rfl rfl rfl owner⟩
      | false => exact ⟨.failed, .reads rfl rfl⟩
  | removed => exact ⟨.removed, .reads rfl rfl⟩
  | failed => exact ⟨.failed, .reads rfl rfl⟩

end TokenThread

end Gatehouse.Access
