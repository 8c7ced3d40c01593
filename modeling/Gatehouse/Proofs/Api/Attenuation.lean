import Gatehouse.Proofs.Access.Lifecycle
import Gatehouse.Proofs.Api.Effect
import Gatehouse.Proofs.Forward.Portrait
import Gatehouse.Proofs.Permission.Resolver

/-!
# The application - API tokens never exceed their users

The roles of an API token are picked from those of its user, and no role is ever taken away.  Whoever
presents an API token therefore has no more roles and permissions than its user has in a session,
whatever has become of the store since the token was made, and cannot have another token made.

Main definitions:

- `Memory.Attenuated`: the API tokens in the store have only roles that are assigned to their users.
- `Deed.maker?` and `Request.PresentsApiToken`: who asks for a new API token in a deed, and requests
  that are made with API tokens.
- `App.served`: the store after some requests.
- `Engine.Covers`: somebody has all the roles and permissions that somebody else has.

Main results:

- Theorem `Memory.attenuated_during`: every run from a seed keeps the API tokens attenuated.
- Theorem `apiToken_attenuated`: API tokens never exceed their users.
-/

/-! ## Runs -/

namespace Gatehouse.Access

/-- Who asks for a new API token. -/
def Deed.maker? : Deed → Option Principal
  | .generate p _ _ _ _ => some p
  | _ => none

end Gatehouse.Access

namespace Gatehouse.Store.Memory

open Access (Deed)

variable {m m' : Memory} {token record : ApiTokenRecord} {roleIds : List String} {d : Deed}

/-- The API tokens in the store have only roles that are assigned to their users. -/
def Attenuated (m : Memory) : Prop :=
  ∀ record ∈ m.apiTokens.data, ∀ id ∈ (m.apiTokenRoles.find? record.id).getD [],
    id ∈ m.assigned record.userId

/-- A store that starts with a seed has no API tokens. -/
theorem attenuated_ofSeed (seed : Seed) : (ofSeed seed).Attenuated := by
  intro record hrecord
  rw [ofSeed_apiTokens] at hrecord
  cases hrecord

/-- A token may be put in with roles of its user. -/
theorem Attenuated.withApiToken (h : m.Attenuated)
    (assigned : ∀ id ∈ roleIds, id ∈ m.assigned token.userId) :
    (m.withApiToken token roleIds).Attenuated := by
  intro record hrecord id hid
  rw [find?_withApiToken_roles] at hid
  rcases mem_withApiToken.1 hrecord with rfl | ⟨old, other⟩
  · rw [if_pos rfl] at hid
    exact assigned id hid
  · rw [if_neg other] at hid
    exact h record old id hid

theorem Attenuated.withoutApiToken (h : m.Attenuated) (tokenId : String) :
    (m.withoutApiToken tokenId).Attenuated := by
  intro record hrecord id hid
  obtain ⟨old, other⟩ := mem_withoutApiToken.1 hrecord
  rw [find?_withoutApiToken_roles, if_neg other] at hid
  exact h record old id hid

/-- Every deed keeps the API tokens attenuated. -/
theorem Attenuated.after (h : m.Attenuated) (done : d.Does m m') : m'.Attenuated := by
  cases done with
  | keeps grows apiTokens roles =>
      intro record hrecord id hid
      rw [apiTokens] at hrecord
      rw [roles] at hid
      exact grows.assigned _ id (h record hrecord id hid)
  | makes session chosen =>
      refine h.withApiToken fun id hid => ?_
      obtain ⟨role, hrole, rfl⟩ := List.mem_map.1 hid
      exact (contains_of_mem_rolesOf (Access.mem_of_grantedRoles chosen role hrole)).1
  | deletes owns => exact h.withoutApiToken _

/-- Every run from a seed keeps the API tokens attenuated. -/
theorem attenuated_during (seed : Seed) (deeds : List Deed) :
    ((ofSeed seed).during deeds).Attenuated :=
  during_induction (attenuated_ofSeed seed) (fun m d h => h.after (d.does m)) deeds

/-- A deed makes an API token only for a session. -/
theorem mem_of_mem_after (done : d.Does m m')
    (delegated : ∀ p, d.maker? = some p → p.isApiToken = true)
    (h : record ∈ m'.apiTokens.data) : record ∈ m.apiTokens.data := by
  cases done with
  | keeps grows apiTokens roles => rwa [apiTokens] at h
  | makes session chosen =>
      rw [delegated _ rfl] at session
      cases session
  | deletes owns => exact (mem_withoutApiToken.1 h).1

/-- Whoever is accepted with API tokens makes none in a whole run. -/
theorem mem_of_mem_during {deeds : List Deed}
    (delegated : ∀ d ∈ deeds, ∀ p, d.maker? = some p → p.isApiToken = true)
    (h : record ∈ (m.during deeds).apiTokens.data) : record ∈ m.apiTokens.data := by
  induction deeds generalizing m with
  | nil => exact h
  | cons d deeds ih =>
      rw [List.forall_mem_cons] at delegated
      exact mem_of_mem_after (d.does m) delegated.1 (ih delegated.2 h)

end Gatehouse.Store.Memory

/-! ## Roles and permissions -/

namespace Gatehouse.Access

open Store (Memory)

variable {s : Service} {m m' : Memory} {now : Token.Time} {token : String} {p q : Principal}

/-- Whoever is accepted with an API token is known to be. -/
theorem Service.isApiToken_of_authenticateApi
    (h : ((s.authenticateApi now token).runOn m).1 = .ok p) : p.isApiToken = true := by
  obtain ⟨stored, user, -, -, -, rfl⟩ := authenticateApi_ok h
  rfl

/-- Whoever is accepted with an API token has roles that its user has in a session, then and later. -/
theorem Principal.ids_rolesIn_subset (attenuated : m.Attenuated) (grows : m.Grows m')
    (accepted : ((s.authenticateApi now token).runOn m).1 = .ok p) (session : q.source = .session)
    (owner : q.userId = p.userId) :
    ∀ id ∈ (p.rolesIn m').map (·.id), id ∈ (q.rolesIn m').map (·.id) := by
  intro id hid
  obtain ⟨stored, user, found, -, active, rfl⟩ := Service.authenticateApi_ok accepted
  obtain ⟨record, rfl, named, -, -⟩ := Memory.exists_of_activeUser? active
  have own : q.userId = stored.userId := owner.trans named
  obtain ⟨role, granted, rfl⟩ := List.mem_map.1 hid
  obtain ⟨listed, known⟩ := Memory.contains_of_mem_rolesOf granted
  have assigned := attenuated stored (List.mem_of_find?_eq_some found) role.id listed
  rw [Principal.rolesIn, session]
  simp only [Memory.ids_rolesOf, own]
  exact List.mem_filter.2 ⟨grows.assigned _ role.id assigned, grows.known role.id known⟩

end Gatehouse.Access

namespace Gatehouse.Forward.Engine

open Store (Memory Role)

variable {e : Engine} {m : Memory}

/-- More roles give no fewer permissions. -/
theorem permissionsIn_subset {fewer more : List Role}
    (h : ∀ id ∈ fewer.map (·.id), id ∈ more.map (·.id)) :
    ∀ x ∈ e.permissionsIn m fewer, x ∈ e.permissionsIn m more := by
  refine e.resolver.resolve_subset fun x hx => ?_
  obtain ⟨role, hrole, gives⟩ := List.mem_flatMap.1 hx
  obtain ⟨other, hother, same⟩ := List.mem_map.1 (h role.id (List.mem_map.2 ⟨role, hrole, rfl⟩))
  rw [← same] at gives
  exact List.mem_flatMap.2 ⟨other, hother, gives⟩

end Gatehouse.Forward.Engine

/-! ## Requests -/

namespace Gatehouse.Api

open Access (Occasion PresentedToken Principal Service)
open Store (ApiTokenRecord Memory)

variable {s : Service} {o : Occasion} {r : Request} {m m' : Memory} {record : ApiTokenRecord}
  {p : Principal}

/-- The request is made with an API token. -/
def Request.PresentsApiToken (r : Request) (s : Service) : Prop :=
  ∃ token, PresentedToken.ofHeaders? r.headers s.config.accessCookie = some (.api token)

/-- Whoever makes a request with an API token is known to. -/
theorem Request.PresentsApiToken.isApiToken (presents : r.PresentsApiToken s)
    (caller : r.caller? s o.now m = some p) : p.isApiToken = true := by
  have accepted := congrArg Prod.fst (Request.runOn_of_caller? caller)
  obtain ⟨credential, found, known⟩ := Service.exists_of_authenticateHeaders accepted
  obtain ⟨token, presented⟩ := presents
  rw [presented] at found
  cases found
  exact Service.isApiToken_of_authenticateApi known

/-- A request with an API token makes no token. -/
theorem Effect.mem_of_mem (effect : Effect s o r m m') (presents : r.PresentsApiToken s)
    (h : record ∈ m'.apiTokens.data) : record ∈ m.apiTokens.data := by
  cases effect with
  | nothing => exact h
  | loggedOut endpoint caller => rwa [Memory.withEnded_eq] at h
  | loggedIn endpoint => rwa [Service.storeAfterCurrent_eq] at h
  | redeemed endpoint asked spends =>
      rwa [Memory.takeRecoveryCode_snd, Service.storeAfterCurrent_eq] at h
  | made endpoint method caller session future chosen =>
      rw [presents.isApiToken caller] at session
      cases session
  | deleted endpoint named caller owns => exact (Memory.mem_withoutApiToken.1 h).1

/-- The store after some requests, each with what it is given from outside. -/
def App.served (a : App) (m : Memory) (requests : List (Occasion × String × Request)) : Memory :=
  requests.foldl (fun m (o, freshId, r) => m.after (a.serve o freshId r)) m

theorem App.served_cons (a : App) (freshId : String)
    (requests : List (Occasion × String × Request)) :
    a.served m ((o, freshId, r) :: requests) =
      a.served (m.after (a.serve o freshId r)) requests :=
  List.foldl_cons ..

/-- Requests with API tokens make no token. -/
theorem App.mem_of_mem_served (a : App) {requests : List (Occasion × String × Request)}
    (present : ∀ request ∈ requests, request.2.2.PresentsApiToken a.engine.service)
    (h : record ∈ (a.served m requests).apiTokens.data) : record ∈ m.apiTokens.data := by
  induction requests generalizing m with
  | nil => exact h
  | cons request requests ih =>
      obtain ⟨o, freshId, r⟩ := request
      rw [List.forall_mem_cons] at present
      rw [served_cons] at h
      exact (a.effect_serve o freshId r m).mem_of_mem present.1 (ih present.2 h)

end Gatehouse.Api

/-! ## Attenuation -/

namespace Gatehouse.Forward.Engine

open Access (Principal)
open Store (Memory)

/-- The principal `q` has the roles that the principal `p` has, and the permissions that forward
authentication tells of `q` are those that it tells of `p` and perhaps more. -/
structure Covers (e : Engine) (m : Memory) (q p : Principal) : Prop where
  roles : ∃ fewer more, p.roles.runOn m = (.ok fewer, m) ∧ q.roles.runOn m = (.ok more, m) ∧
    ∀ id ∈ fewer.map (·.id), id ∈ more.map (·.id)
  permissions : ∀ user, ∃ lines fewer lines' more,
    (e.describe (.user p user)).runOn m = (.ok (lines, some fewer), m) ∧
    (e.describe (.user q user)).runOn m = (.ok (lines', some more), m) ∧
    ∀ x ∈ fewer.permissions, x ∈ more.permissions

variable {e : Engine} {m : Memory} {p q : Principal}

/-- Whoever has the roles of somebody else has the permissions too. -/
theorem Covers.of_roles (h : ∀ id ∈ (p.rolesIn m).map (·.id), id ∈ (q.rolesIn m).map (·.id)) :
    e.Covers m q p where
  roles := ⟨_, _, Principal.runOn_roles, Principal.runOn_roles, h⟩
  permissions user := by
    have told (p : Principal) := runOn_describe (e := e) (m := m) (.user p user)
    simp only [portrait_user] at told
    exact ⟨_, _, _, _, told p, told q, permissionsIn_subset h⟩

end Gatehouse.Forward.Engine

namespace Gatehouse.Api

open Access (Deed Principal Service)
open Store (Memory Seed)

/-- In a run from a seed in which tokens are made and deleted, users log in and the store is kept up,
whoever is accepted with an API token is covered then and later by a session of the user, and neither
calls of the services nor requests to the application that are made with API tokens make a token. -/
theorem apiToken_attenuated (seed : Seed) (deeds later : List Deed) (a : App) (now : Token.Time)
    (token : String) {p q : Principal}
    (accepted : ((a.engine.service.authenticate now (.api token)).runOn
      ((Memory.ofSeed seed).during deeds)).1 = .ok p)
    (session : q.source = .session) (owner : q.userId = p.userId) :
    let m := (Memory.ofSeed seed).during (deeds ++ later)
    a.engine.Covers m q p ∧ p.isApiToken = true ∧
    (∀ calls, (∀ d ∈ calls, ∀ p, d.maker? = some p → p.isApiToken = true) →
      ∀ record ∈ (m.during calls).apiTokens.data, record ∈ m.apiTokens.data) ∧
    ∀ requests, (∀ request ∈ requests, request.2.2.PresentsApiToken a.engine.service) →
      ∀ record ∈ (a.served m requests).apiTokens.data, record ∈ m.apiTokens.data := by
  intro m
  have attenuated := Memory.attenuated_during seed deeds
  have grows : ((Memory.ofSeed seed).during deeds).Grows m := by
    simp only [m, Memory.during_append]
    exact Memory.grows_during _ later
  have roles := Principal.ids_rolesIn_subset attenuated grows accepted session owner
  have delegate : p.isApiToken = true := Service.isApiToken_of_authenticateApi accepted
  refine ⟨.of_roles roles, delegate, ?_, ?_⟩
  · exact fun calls delegated record h => Memory.mem_of_mem_during delegated h
  · exact fun requests present record h => a.mem_of_mem_served present h

/-- Alice is an administrator and a guest. -/
def aliceSeed : Seed :=
  ⟨[⟨⟨"admin", "Administrators", ""⟩, ["write"]⟩, ⟨⟨"guest", "Guests", ""⟩, ["read"]⟩],
    [⟨Access.alice none, false, ["admin", "guest"]⟩]⟩

/-- Alice makes a token for a guest. -/
def aliceInvites : Deed :=
  .generate Access.aliceSession Access.aliceErrand (some ["Guests"]) none ""

/-- Who is accepted with the token. -/
def aliceGuest : Principal :=
  ⟨Service.apiTokenClaims Access.smallService.config
      (Access.aliceSession.newRecord Access.aliceErrand none "") (Access.alice none)
      [⟨"guest", "Guests", ""⟩],
    .apiToken "errand" [⟨"guest", "Guests", ""⟩]⟩

/-- An application with a flat resolver. -/
def houseApp : App :=
  ⟨Forward.Engine.houseEngine, Gatehouse.identification, utf8 "http://house"⟩

theorem during_aliceInvites :
    (Memory.ofSeed aliceSeed).during [aliceInvites] =
      (Memory.ofSeed aliceSeed).withApiToken
        (Access.aliceSession.newRecord Access.aliceErrand none "") ["guest"] := by
  rw [Memory.during_cons, Memory.during_nil, aliceInvites, Deed.after,
    Principal.runOn_generateApiToken]
  rfl

theorem aliceGuest_accepted :
    ((houseApp.engine.service.authenticateApi 2000
      (Token.ApiToken.ofRandom Access.aliceErrand.apiTokenRandom)).runOn
        ((Memory.ofSeed aliceSeed).during [aliceInvites])).1 = .ok aliceGuest := by
  have unstored : (Memory.ofSeed aliceSeed).Lacks
      (Access.aliceSession.newRecord Access.aliceErrand none "").digest := by
    intro record hrecord
    rw [Memory.ofSeed_apiTokens] at hrecord
    cases hrecord
  have held : ((Memory.ofSeed aliceSeed).during [aliceInvites]).Holds
      (Access.aliceSession.newRecord Access.aliceErrand none "") ["guest"] := by
    rw [during_aliceInvites]
    exact unstored.holds_withApiToken ["guest"]
  rw [Service.runOn_authenticateApi_of_holds held rfl, during_aliceInvites]
  rfl

/-- Alice may do what the guest may, and the guest is no administrator. -/
theorem aliceGuest_attenuated :
    ((houseApp.engine.service.authenticate 2000
      (.api (Token.ApiToken.ofRandom Access.aliceErrand.apiTokenRandom))).runOn
        ((Memory.ofSeed aliceSeed).during [aliceInvites])).1 = .ok aliceGuest ∧
      Access.aliceSession.source = .session ∧ Access.aliceSession.userId = aliceGuest.userId ∧
      houseApp.engine.Covers ((Memory.ofSeed aliceSeed).during [aliceInvites])
        Access.aliceSession aliceGuest ∧
      ∀ role ∈ aliceGuest.rolesIn ((Memory.ofSeed aliceSeed).during [aliceInvites]),
        role.id ≠ "admin" := by
  have attenuated := apiToken_attenuated aliceSeed [aliceInvites] [] houseApp 2000 _
    aliceGuest_accepted (q := Access.aliceSession) rfl rfl
  refine ⟨aliceGuest_accepted, rfl, rfl, attenuated.1, ?_⟩
  intro role hrole
  obtain rfl := List.mem_singleton.1 hrole
  decide

end Gatehouse.Api
