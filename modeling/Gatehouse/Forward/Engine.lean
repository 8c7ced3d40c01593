import Gatehouse.Access.Principal
import Gatehouse.Forward.Decision
import Gatehouse.Forward.Request
import Gatehouse.Forward.Rules
import Gatehouse.Permission.Resolver
import Gatehouse.Policy.Answer
import Gatehouse.Policy.Input
import Gatehouse.Redirect

/-!
# Deciding about delegated requests

A delegated request is denied when a rule denies it.  Otherwise it is made by the user whose token
it presents, by the subject of a rule that lets it in, or, where no login is needed, by nobody; in
all other cases the user is sent to log in or to refresh the session.  A policy has the last word.

Main definitions: `Engine`, `Engine.identify`, `Engine.describe` and `Engine.decide`.
-/

namespace Gatehouse.Forward

open Access (Flow Principal Service)
open Http (Headers)
open Net (TrustedNetworks)
open Policy (Subject)
open Store (Action Asking Role User)
open Token (Time)

/-- All that decisions depend on beside the store. -/
structure Engine where
  service : Service
  rules : Rules
  resolver : Permission.Resolver
  /-- The policy to ask, which may have no opinion and may fail. -/
  policy : Option (Policy.Input → Except Policy.Failure (Option Policy.Answer))
  trusted : TrustedNetworks

/-- A decision, and what the policy was asked if it was. -/
structure Ruling where
  decision : Decision
  consulted : Option Policy.Input
  deriving Repr

/-- A decision without a policy. -/
def Ruling.plain (d : Decision) : Ruling := ⟨d, none⟩

/-- Who makes a delegated request. -/
inductive Identity where
  | user (principal : Principal) (user : User)
  /-- Somebody whom a rule lets in; there may be a user of that id. -/
  | subject (grant : Grant) (user : Option User)
  | anonymous

/-! ## Lines that do not depend on who makes the request -/

/-- Let scripts of the calling site read the response. -/
def corsLines (request : Headers) : Headers :=
  match request.first? "origin" with
  | some origin =>
    ⟨[("access-control-allow-origin", origin), ("access-control-allow-credentials", utf8 "true"),
      ("vary", utf8 "Origin")]⟩
  | none => .empty

/-- Deny a request. -/
def denial (r : Request) (status : Nat) (headers : Headers) : Decision :=
  .deny status (headers.extend (corsLines r.headers))

/-- Send the user to an address that is made from a template. -/
def redirection (r : Request) (template : String) : Decision :=
  let target := r.returnTarget
  if Text.isBlankText template || target.isEmpty then denial r 403 .empty
  else .redirect (Redirect.fillTemplate template target) r.wantsHtml (corsLines r.headers)

/-! ## Identity -/

namespace Engine

/-- What the rules say about a request. -/
def verdict (e : Engine) (r : Request) : Verdict :=
  match e.rules.entryFor? r.method r.url with
  | some entry => entry.verdict r.client (Http.bearer? r.headers)
  | none => .silent

/-- Does the request need a login? -/
def needsLogin (e : Engine) (r : Request) : Bool :=
  e.rules.needsLoginFor (e.rules.entryFor? r.method r.url)

/-- Find out who makes a request that no rule denies, or decide about it. -/
def identify (e : Engine) (now : Time) (r : Request) : Action (Except Decision Identity) := do
  match ← (e.service.authenticateHeaders now r.headers).run, e.verdict r with
  | .ok principal, _ =>
    match ← (Flow.activeUser? principal.userId).run with
    | .ok (some user) => return .ok (.user principal user)
    | .ok none => return .error (denial r 403 .empty)
    | .error _ => return .error .error
  | .error .unauthenticated, .allow grant => granted grant
  | .error .expired, .allow grant => granted grant
  | .error .expired, _ =>
    return if e.needsLogin r then .error (redirection r e.service.config.refreshUrl)
      else .ok .anonymous
  | .error .unauthenticated, _ =>
    return if e.needsLogin r then .error (redirection r e.service.config.loginUrl)
      else .ok .anonymous
  | .error _, _ => return .error .error
where
  /-- Somebody whom a rule lets in. -/
  granted (grant : Grant) : Action (Except Decision Identity) := do
    match ← (Flow.activeUser? grant.subject).run with
    | .ok user => return .ok (.subject grant user)
    | .error _ => return .error .error

/-- The permissions that some roles give. -/
def permissionsFor (e : Engine) (roles : List Role) : Flow (List String) := do
  let requested ← roles.mapM fun role => Flow.fetch (Asking.permissionsOfRole role.id)
  return e.resolver.resolve requested.flatten

/-- The header with the lines that describe a user. -/
def userLines (e : Engine) (headers : Headers) (user : User) : Flow Headers := do
  let headers := headers.appendText "remote-user-id" user.id
  let headers := headers.appendText "remote-user" user.username
  let headers :=
    if user.shownName.isEmpty then headers
    else headers.appendText "remote-display-name" user.shownName
  let email ← Flow.lookup? (Asking.primaryEmail user.id)
  let headers :=
    match email with
    | some email =>
      (headers.appendText "remote-mail" email.address).appendText "remote-mail-verified"
        (if email.verified then "true" else "false")
    | none => headers
  return headers.appendText "remote-avatar-url"
    (e.service.config.publicUrl ++ "/avatar/" ++ user.id)

/-- The header with a line for each role. -/
def roleLines (headers : Headers) (roleIds : List String) : Headers :=
  roleIds.foldl (fun headers id => headers.appendText "remote-role" id) headers

/-- The lines that describe an identity, and what a policy is told of it. -/
def describe (e : Engine) : Identity → Flow (Headers × Option Subject)
  | .anonymous => return (.empty, none)
  | .user principal user => do
    let roles ← principal.roles
    let headers ← e.userLines .empty user
    let headers := roleLines headers (roles.map (·.id))
    let permissions ← e.permissionsFor roles
    return (headers, some (Subject.ofUser user principal.claims.loginKind? roles permissions))
  | .subject grant user => do
    let headers := roleLines .empty grant.roles
    let roles : List Role := grant.roles.map fun id => ⟨id, id, ""⟩
    let permissions ← e.permissionsFor roles
    match user with
    | some user =>
      let headers ← e.userLines headers user
      return (headers, some (Subject.ofUser user none roles permissions))
    | none =>
      return (headers.appendText "remote-user-id" grant.subject,
        some (Subject.ofName grant.subject roles permissions))

/-! ## Policy -/

/-- What a policy is asked about a request. -/
def policyInput (r : Request) (subject : Option Subject) : Policy.Input :=
  { subject
    method := r.method
    path := r.path
    host := r.host
    headers := Policy.headerTable r.headers
    query := Policy.queryTable r.query
    client := r.client.map (·.text) }

/-- The decision that follows from what a policy says about an identity with the given lines. -/
def afterPolicy (r : Request) (headers : Headers) :
    Except Policy.Failure (Option Policy.Answer) → Decision
  | .ok none => .allow headers
  | .ok (some answer) =>
    if answer.allow then .allow (headers.extend answer.lines)
    else
      let status := (answer.status.filter fun code => 100 ≤ code && code < 1000).getD 403
      denial r status answer.lines
  | .error _ => .error

/-- Leave the decision to the policy, if there is one. -/
def applyPolicy (e : Engine) (r : Request) (headers : Headers) (subject : Option Subject) :
    Ruling :=
  match e.policy with
  | none => .plain (.allow headers)
  | some policy =>
    let input := policyInput r subject
    ⟨afterPolicy r headers (policy input), some input⟩

/-! ## Deciding -/

/-- Decide about a request that no rule denies. -/
def decideUndenied (e : Engine) (now : Time) (r : Request) : Action Ruling := do
  match ← e.identify now r with
  | .error decision => return .plain decision
  | .ok identity =>
    match ← (e.describe identity).run with
    | .ok (headers, subject) => return e.applyPolicy r headers subject
    | .error _ => return .plain .error

/-- Decide about a delegated request.  Questions about options are always allowed. -/
def decide (e : Engine) (now : Time) (r : Request) : Action Ruling :=
  if r.method == "OPTIONS" then return .plain (.allow .empty)
  else if e.verdict r = .deny then return .plain (denial r 403 .empty)
  else e.decideUndenied now r

end Engine

end Gatehouse.Forward
