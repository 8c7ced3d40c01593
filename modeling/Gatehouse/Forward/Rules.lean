import Gatehouse.Json.Record
import Gatehouse.Net.Network
import Gatehouse.Pattern.Parser
import Gatehouse.Text.Quoted

/-!
# Access rules

Rules say which addresses need a login and which machines get in without one.  An entry covers the
addresses that its pattern describes; of several entries that cover an address the first one counts.
The rules of an entry look at the address of the client and at the bearer token of the request.

Rules are written as a JSON document, which is compiled once: the patterns, addresses and networks
in it are read, and rules that let somebody in have to say whom.

Main definitions:

- `WrittenRules`, the document, with `WrittenRules.ofJson?`, `WrittenRules.compileWith` and
  `WrittenRules.compile`.
- `Rules.entryFor?` finds the entry for a request, `Rules.needsLogin` says whether it needs a login.
- `Entry.verdict` evaluates the rules of an entry: one that denies comes before all that allow.
-/

namespace Gatehouse.Forward

open Net (Address Network)

/-! ## Compiled rules -/

/-- Whom a rule lets in. -/
structure Grant where
  subject : String
  roles : List String
  deriving DecidableEq, Repr

/-- What a rule does for the requests that it matches. -/
inductive Effect where
  | deny
  | allow (grant : Grant)
  deriving DecidableEq, Repr

/-- A rule: what it looks for, of which one is enough, and what it does. -/
structure Rule where
  address : Option Address
  network : Option Network
  token : Option String
  effect : Effect
  deriving DecidableEq, Repr

/-- Does the rule match a request of the client with the bearer token? -/
def Rule.matches (r : Rule) (client : Option Address) (bearer : Option String) : Bool :=
  (r.address.isSome && r.address == client) ||
    (r.network.any fun network => client.any network.contains) ||
    (r.token.isSome && r.token == bearer)

/-- What the rules of an entry say about a request. -/
inductive Verdict where
  | deny
  | allow (grant : Grant)
  | silent
  deriving DecidableEq, Repr

/-- Whom a rule lets in, unless it denies. -/
def Rule.grant? (r : Rule) : Option Grant :=
  match r.effect with
  | .deny => none
  | .allow grant => some grant

/-- Rules for the addresses that a pattern describes. -/
structure Entry where
  url : Pattern
  /-- The methods that the entry covers; no methods stand for all. -/
  methods : List String
  needsLogin : Bool
  rules : List Rule
  deriving DecidableEq, Repr

/-- Does the entry cover the request? -/
def Entry.covers (e : Entry) (method url : String) : Bool :=
  (e.methods.isEmpty || e.methods.any (Text.eqIgnoreCase · method)) && e.url.isMatch url

/-- What the rules that match a request say: a rule that denies is heard before all others, and else
the first one that allows. -/
def Entry.verdict (e : Entry) (client : Option Address) (bearer : Option String) : Verdict :=
  let hits := e.rules.filter (·.matches client bearer)
  if hits.any (·.effect == .deny) then .deny
  else
    match hits.findSome? (·.grant?) with
    | some grant => .allow grant
    | none => .silent

/-- All rules. -/
structure Rules where
  /-- Do the addresses that no entry covers need a login? -/
  needsLogin : Bool
  entries : List Entry
  deriving DecidableEq, Repr

/-- Without rules every address needs a login. -/
def Rules.empty : Rules := ⟨true, []⟩

/-- The first entry that covers a request. -/
def Rules.entryFor? (r : Rules) (method url : String) : Option Entry :=
  r.entries.find? (·.covers method url)

/-- Does a request with the given entry need a login? -/
def Rules.needsLoginFor (r : Rules) (entry : Option Entry) : Bool :=
  (entry.map (·.needsLogin)).getD r.needsLogin

/-! ## Written rules -/

/-- A rule as it is written.  Blank fields count as absent. -/
structure WrittenRule where
  ip : Option String
  network : Option String
  token : Option String
  deny : Bool
  subject : Option String
  roles : List String
  deriving DecidableEq, Repr

/-- An entry as it is written. -/
structure WrittenEntry where
  url : String
  methods : List String
  required : Option Bool
  rules : List WrittenRule
  deriving DecidableEq, Repr

/-- The document that holds the rules. -/
structure WrittenRules where
  defaultRequired : Bool
  entries : List WrittenEntry
  deriving DecidableEq, Repr

/-- The document that says nothing. -/
def WrittenRules.empty : WrittenRules := ⟨true, []⟩

/-- What is wrong with written rules. -/
inductive RuleError where
  | pattern (text : String)
  | address (text : String)
  | network (text : String)
  | missingSubject
  deriving DecidableEq, Repr

/-- The wording of an error. -/
def RuleError.message : RuleError → String
  | .pattern text => "invalid url pattern " ++ Text.quoted text
  | .address text => "invalid ip address " ++ Text.quoted text
  | .network text => "invalid network " ++ Text.quoted text
  | .missingSubject => "allow rule without subject"

/-- Read a field that is absent or blank, or else has to be understood. -/
def readField {α : Type} (read : String → Option α) (fault : String → RuleError)
    (field : Option String) : Except RuleError (Option α) :=
  match field.filter (!Text.isBlankText ·) with
  | none => .ok none
  | some text =>
    match read (Text.trim text) with
    | some a => .ok (some a)
    | none => .error (fault text)

/-- What a written rule does.  A rule that allows has to name its subject. -/
def WrittenRule.effect (w : WrittenRule) : Except RuleError Effect :=
  let subject := w.subject.getD ""
  if w.deny then .ok .deny
  else if subject.isEmpty then .error .missingSubject
  else .ok (.allow ⟨subject, w.roles⟩)

/-- Compile a rule; of several faults the one in the address is reported before the one in the
network, and that one before a missing subject. -/
def WrittenRule.compile (w : WrittenRule) : Except RuleError Rule := do
  let address ← readField Address.ofText? .address w.ip
  let network ← readField Network.ofText? .network w.network
  let effect ← w.effect
  return ⟨address, network, w.token.filter (!·.isEmpty), effect⟩

/-- Compile an entry with a reader of patterns, its pattern first. -/
def WrittenEntry.compile (readPattern : String → Option Pattern) (w : WrittenEntry) :
    Except RuleError Entry := do
  match readPattern w.url with
  | none => throw (.pattern w.url)
  | some url =>
    let rules ← w.rules.mapM (·.compile)
    return ⟨url, w.methods.map fun m => Text.upperAscii (Text.trim m), w.required.getD true, rules⟩

/-- Compile the rules with a reader of patterns, or say what is wrong with them first. -/
def WrittenRules.compileWith (readPattern : String → Option Pattern) (w : WrittenRules) :
    Except RuleError Rules := do
  let entries ← w.entries.mapM (·.compile readPattern)
  return ⟨w.defaultRequired, entries⟩

/-- Compile the rules, whose patterns are regular expressions. -/
def WrittenRules.compile (w : WrittenRules) : Except RuleError Rules :=
  w.compileWith Pattern.ofText?

/-! ## Reading -/

open Json (Reader Record readNullable readString readBool readList)

/-- The rule in a value. -/
def WrittenRule.ofJson? : Reader WrittenRule := fun v => do
  let r ← Record.ofValue? ["ip", "network", "token", "deny", "subject", "roles"] v
  let ip ← r.orElse "ip" none (readNullable readString)
  let network ← r.orElse "network" none (readNullable readString)
  let token ← r.orElse "token" none (readNullable readString)
  let deny ← r.orElse "deny" false readBool
  let subject ← r.orElse "subject" none (readNullable readString)
  let roles ← r.orElse "roles" [] (readList readString)
  return ⟨ip, network, token, deny, subject, roles⟩

/-- The entry in a value. -/
def WrittenEntry.ofJson? : Reader WrittenEntry := fun v => do
  let r ← Record.ofValue? ["url", "methods", "required", "rules"] v
  let url ← r.required "url" readString
  let methods ← r.orElse "methods" [] (readList readString)
  let required ← r.orElse "required" none (readNullable readBool)
  let rules ← r.orElse "rules" [] (readList WrittenRule.ofJson?)
  return ⟨url, methods, required, rules⟩

/-- The document in a value. -/
def WrittenRules.ofJson? : Reader WrittenRules := fun v => do
  let r ← Record.ofValue? ["default_required", "entries"] v
  let defaultRequired ← r.orElse "default_required" true readBool
  let entries ← r.orElse "entries" [] (readList WrittenEntry.ofJson?)
  return ⟨defaultRequired, entries⟩

end Gatehouse.Forward
