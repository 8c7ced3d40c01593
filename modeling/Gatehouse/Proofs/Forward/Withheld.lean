import Gatehouse.Proofs.Forward.PolicyLines
import Gatehouse.Proofs.Forward.Portrait
import Gatehouse.Proofs.Policy.Input

/-!
# Deciding about delegated requests - What a policy is not told

A policy is told who makes a request and what the header says, but not by which credentials the
engine knows.  Requests that differ in their credentials alone, and are made by the same user in the
same kind of session, are the same to it.

Main definitions:

- `Request.SameButCredentials`: two requests that differ at most in the lines with credentials.
- `Identity.Same`: the same user in the same kind of session, whatever the credentials.
- `Engine.Establishes`: the engine finds out who makes a request.

Main results:

- Theorem `Engine.describe_congr`: whoever is the same is described alike.
- Theorem `Request.sameButCredentials_of_sent`: requests whose headers were sent with other credentials.
- Theorem `Engine.policy_sees_no_credentials`: what a policy is told, and what makes no difference.
-/

namespace Gatehouse.Forward

open Access (Flow Principal)
open Http (Headers sentLines)
open Policy (Subject withheldLines)
open Store (Action Memory Query Reply Role User)
open Token (Time)

variable {σ : Type} {answer : σ → (q : Query) → Reply q × σ} {e : Engine} {now now' : Time}
  {m : Memory} {s s' t : σ} {r r' : Request} {identity identity' : Identity}

/-! ## Requests that differ in their credentials -/

/-- Two requests differ at most in the lines with credentials. -/
structure Request.SameButCredentials (r r' : Request) : Prop where
  method : r.method = r'.method
  scheme : r.scheme = r'.scheme
  host : r.host = r'.host
  path : r.path = r'.path
  query : r.query = r'.query
  client : r.client = r'.client
  lines : r.headers.without withheldLines = r'.headers.without withheldLines

namespace Request

theorem values_congr {a b : Headers} (h : a.without withheldLines = b.without withheldLines)
    {name : String} (shown : name ∉ withheldLines) : a.values name = b.values name := by
  rw [← a.values_without shown, h, b.values_without shown]

theorem lineText_congr {a b : Headers} (h : a.without withheldLines = b.without withheldLines)
    {name : String} (shown : name ∉ withheldLines) : lineText a name = lineText b name := by
  unfold lineText Headers.first?
  rw [values_congr h shown]

/-- What a proxy says of a request stands on lines without credentials. -/
theorem sameButCredentials_ofHeaders {a b : Headers}
    (h : a.without withheldLines = b.without withheldLines) (peer : Option Net.Address)
    (trusted : Net.TrustedNetworks) :
    (ofHeaders a peer trusted).SameButCredentials (ofHeaders b peer trusted) := by
  have method : lineText a "x-forwarded-method" = lineText b _ := lineText_congr h (by decide)
  have uri : lineText a "x-forwarded-uri" = lineText b _ := lineText_congr h (by decide)
  have noted : Net.hops a = Net.hops b := by
    unfold Net.hops
    rw [values_congr h (by decide)]
  constructor
  · simp only [ofHeaders, method]
  · exact lineText_congr h (by decide)
  · exact lineText_congr h (by decide)
  · simp only [ofHeaders, uri]
  · simp only [ofHeaders, uri]
  · simp only [ofHeaders, Net.TrustedNetworks.clientAddress, noted]
  · exact h

/-- Headers that were sent with other lines under the names of credentials, in any case, make requests
that differ at most in their credentials. -/
theorem sameButCredentials_of_sent {v v' : Json.Value} {a b : Headers}
    (read : Headers.ofJson? v = some a) (read' : Headers.ofJson? v' = some b)
    (same : (sentLines v).filter (fun sent => !withheldLines.contains (Text.lowerAscii sent.1)) =
      (sentLines v').filter fun sent => !withheldLines.contains (Text.lowerAscii sent.1))
    (peer : Option Net.Address) (trusted : Net.TrustedNetworks) :
    (ofHeaders a peer trusted).SameButCredentials (ofHeaders b peer trusted) := by
  have kept {v : Json.Value} {h : Headers} (read : Headers.ofJson? v = some h) :
      h.without withheldLines =
        ⟨((sentLines v).filter fun sent => !withheldLines.contains (Text.lowerAscii sent.1)).map
          fun sent => (Text.lowerAscii sent.1, sent.2)⟩ := by
    rw [Headers.without, Headers.lines_of_ofJson? read, List.filter_map]
    rfl
  refine sameButCredentials_ofHeaders ?_ peer trusted
  rw [kept read, kept read', same]

end Request

/-! ## Identities that credentials do not tell apart -/

/-- The same user in the same kind of session and with the same roles, the same subject of a rule, or
nobody.  Two credentials of one user can differ in everything else. -/
inductive Identity.Same : Identity → Identity → Prop where
  | user {p p' : Principal} (user : User) (kind : p.claims.loginKind? = p'.claims.loginKind?)
      (roles : p.roles = p'.roles) : Same (.user p user) (.user p' user)
  | subject (grant : Grant) (user : Option User) : Same (.subject grant user) (.subject grant user)
  | anonymous : Same .anonymous .anonymous

theorem Identity.Same.refl (identity : Identity) : identity.Same identity := by
  cases identity with
  | user p user => exact .user user rfl rfl
  | subject grant user => exact .subject grant user
  | anonymous => exact .anonymous

namespace Engine

/-- Whoever is the same is described alike. -/
theorem describe_congr (same : identity.Same identity') :
    e.describe identity = e.describe identity' := by
  cases same with
  | user user kind roles => simp only [describe, kind, roles]
  | subject | anonymous => rfl

/-! ## What a policy is told -/

/-- The engine finds out who makes a request, which no rule denies, and leaves the store in a state. -/
structure Establishes (e : Engine) (answer : σ → (q : Query) → Reply q × σ) (now : Time) (s : σ)
    (r : Request) (identity : Identity) (t : σ) : Prop where
  method : r.method ≠ "OPTIONS"
  undenied : e.verdict r ≠ .deny
  found : (e.identify now r).run answer s = (.ok identity, t)

/-- Finding out who makes a request leaves the store in memory as it is. -/
theorem Establishes.eq_of_memory {m' : Memory}
    (h : e.Establishes Memory.answer now m r identity m') : m' = m := by
  have found := h.found
  rw [run_identify] at found
  exact (congrArg Prod.snd found).symm

/-- All that is looked up for a request is about whoever makes it. -/
theorem Establishes.run_described (h : e.Establishes answer now s r identity t) :
    ((e.described now r).run answer s).1 =
      match ((e.describe identity).run.run answer t).1 with
      | .ok lines => .ok lines
      | .error _ => .error .error := by
  rw [described, if_neg (by simpa using h.method), if_neg h.undenied]
  refine (congrArg Prod.fst (Action.run_bind answer (e.identify now r) _ s)).trans ?_
  rw [h.found]
  refine (congrArg Prod.fst (Action.run_bind answer (e.describe identity).run _ t)).trans ?_
  cases ((e.describe identity).run.run answer t).1 <;> rfl

theorem consulted_conclude (looked : Except Decision (Headers × Option Subject)) :
    (e.conclude r looked).consulted =
      match looked with
      | .ok (_, subject) => e.policy.map fun _ => policyInput r subject
      | .error _ => none := by
  cases looked with
  | error decision => rfl
  | ok lines =>
      simp only [conclude, applyPolicy]
      cases e.policy <;> rfl

theorem policyInput_congr (same : r.SameButCredentials r') (subject : Option Subject) :
    policyInput r subject = policyInput r' subject := by
  have table : Policy.headerTable r.headers = Policy.headerTable r'.headers := by
    rw [← Policy.headerTable_without, same.lines, Policy.headerTable_without]
  simp only [policyInput, same.method, same.path, same.host, same.query, same.client, table]

/-- A policy is told the same of two requests that differ in their credentials alone. -/
theorem consulted_congr (same : r.SameButCredentials r') (alike : identity.Same identity')
    (h : e.Establishes answer now s r identity t)
    (h' : e.Establishes answer now' s' r' identity' t) :
    ((e.decide now r).run answer s).1.consulted = ((e.decide now' r').run answer s').1.consulted := by
  rw [run_decide, run_decide, consulted_conclude, consulted_conclude, h.run_described,
    h'.run_described, describe_congr alike]
  cases ((e.describe identity').run.run answer t).1 with
  | error failure => rfl
  | ok lines => simp only [policyInput_congr same]

/-- Whatever a policy is told of the header is told of its lines without credentials. -/
theorem headers_of_consulted {input : Policy.Input}
    (asked : ((e.decide now r).run answer s).1.consulted = some input) :
    input.headers = Policy.headerTable r.headers := by
  rw [run_decide, consulted_conclude] at asked
  split at asked
  · obtain ⟨policy, -, rfl⟩ := Option.map_eq_some_iff.1 asked
    rfl
  · cases asked

/-- A policy never learns the credentials of a request.  It is told the same of two requests that differ
in their credentials alone and are made by the same, whichever store there is and whatever credentials
the engine knows them by; so with the store in memory, which stays as it is.  Under each name of the
header it is told the readable values in their order, and nothing under the names of credentials. A
header that was sent with names in any case is read with the values of each name in lower case, and
two that were sent with other credentials make requests that differ in their credentials alone. -/
theorem policy_sees_no_credentials (same : r.SameButCredentials r')
    (alike : identity.Same identity') :
    (e.Establishes answer now s r identity t → e.Establishes answer now' s' r' identity' t →
      ((e.decide now r).run answer s).1.consulted =
        ((e.decide now' r').run answer s').1.consulted) ∧
    (∀ m m₁ m₂ : Memory, e.Establishes Memory.answer now m r identity m₁ →
      e.Establishes Memory.answer now' m r' identity' m₂ →
      ((e.decide now r).run Memory.answer m).1.consulted =
        ((e.decide now' r').run Memory.answer m).1.consulted) ∧
    (∀ input, ((e.decide now r).run answer s).1.consulted = some input → ∀ name,
      input.headers.find? name =
        if name ∈ withheldLines ∨ (r.headers.values name).filterMap Http.readable? = [] then none
        else some (Text.joinWith ", " ((r.headers.values name).filterMap Http.readable?))) ∧
    (∀ v a, Headers.ofJson? v = some a →
      (∀ name, a.values name =
        ((sentLines v).filter fun sent => Text.lowerAscii sent.1 == name).map (·.2)) ∧
      ∀ v' b, Headers.ofJson? v' = some b →
        (sentLines v).filter (fun sent => !withheldLines.contains (Text.lowerAscii sent.1)) =
          (sentLines v').filter (fun sent => !withheldLines.contains (Text.lowerAscii sent.1)) →
        ∀ peer trusted, (Request.ofHeaders a peer trusted).SameButCredentials
          (Request.ofHeaders b peer trusted)) := by
  refine ⟨fun h h' => consulted_congr same alike h h', ?_, ?_, ?_⟩
  · intro m m₁ m₂ h h'
    cases h.eq_of_memory
    cases h'.eq_of_memory
    exact consulted_congr same alike h h'
  · intro input asked name
    rw [headers_of_consulted asked, Policy.find?_headerTable]
  · intro v a read
    refine ⟨Headers.values_of_ofJson? read, ?_⟩
    intro v' b read' lines peer trusted
    exact Request.sameButCredentials_of_sent read read' lines peer trusted

/-- A request of the robot with some credentials and a word on the team. -/
def robotVisit (credentials : List (String × Bytes)) : Request :=
  { robotRequest (.v4 0x0B000001) with
    headers := ⟨("x-team", utf8 "night") :: credentials ++ [("x-team", utf8 "shift")]⟩ }

theorem robotVisit_established (credentials : List (String × Bytes))
    (stranger : houseEngine.authentication 1000 .empty (robotVisit credentials) =
      .error .unauthenticated)
    (granted : houseEngine.verdict (robotVisit credentials) = .allow ⟨"robot", ["reader"]⟩) :
    houseEngine.Establishes Memory.answer 1000 .empty (robotVisit credentials)
      (.subject ⟨"robot", ["reader"]⟩ none) .empty where
  method := show "GET" ≠ "OPTIONS" by decide
  undenied := by rw [granted]; exact nofun
  found := by rw [run_identify, stranger, granted]; rfl

/-- The credentials that the robot needs. -/
def openCredentials : List (String × Bytes) := [("authorization", utf8 "Bearer open")]

/-- Some credentials with which nobody is known. -/
def oddCredentials : List (String × Bytes) :=
  [("cookie", utf8 "portcullis_access=forged")] ++ openCredentials ++
    [("authorization", utf8 "Basic cm9ib3Q6b3Blbg==")]

/-- The policy of the house is told of the robot's team, and not of its credentials. -/
theorem houseEngine_robotVisit :
    ∃ input, ((houseEngine.decide 1000 (robotVisit openCredentials)).run Memory.answer
        .empty).1.consulted = some input ∧
      ((houseEngine.decide 1000 (robotVisit oddCredentials)).run Memory.answer
        .empty).1.consulted = some input ∧
      input.headers.find? "x-team" = some "night, shift" ∧
      input.headers.find? "authorization" = none := by
  have plain := robotVisit_established openCredentials (by decide +kernel) (by decide +kernel)
  have odd := robotVisit_established oddCredentials (by decide +kernel) (by decide +kernel)
  have same : (robotVisit openCredentials).SameButCredentials (robotVisit oddCredentials) := by
    constructor <;> rfl
  obtain ⟨alike, -, told, -⟩ := @policy_sees_no_credentials Memory Memory.answer houseEngine
    1000 1000 .empty .empty .empty _ _ _ _ same (.refl (.subject ⟨"robot", ["reader"]⟩ none))
  obtain ⟨input, asked⟩ : ∃ input, ((houseEngine.decide 1000 (robotVisit openCredentials)).run
      Memory.answer .empty).1.consulted = some input :=
    Option.isSome_iff_exists.1 (by decide +kernel)
  refine ⟨input, asked, ?_, ?_, ?_⟩
  · rw [← alike plain odd, asked]
  · rw [told input asked]
    decide +kernel
  · rw [told input asked]
    decide +kernel

end Engine

end Gatehouse.Forward
