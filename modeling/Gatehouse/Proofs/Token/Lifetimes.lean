import Gatehouse.Proofs.Http.CookieJar
import Gatehouse.Proofs.Token.Cookies
import Gatehouse.Proofs.Token.Verification

/-!
# Issuing tokens - How long they live

The lifetime of a token follows from the settings, the overrides that concern its user, and for an
access token from what the caller asks for.  The end of the lifetime is written into the token, told
to the caller, and told to the browser that keeps the token in a cookie.

Main definitions:

- `TtlOverride.Sets`: the lifetime that an override sets for a user.
- `StandardTtl`: the lifetime that the settings and their overrides give.
- `AccessLifetime` and `RefreshLifetime`: how long a new token lives.
- `IssuesFor`: a computation issues tokens of some lifetime.

Main results:

- Theorem `accessLifetime_iff` and theorem `refreshLifetime_iff`: the lifetimes that are granted.
- Theorem `grantedTtl_mono`: who asks for more does not get less.
- Theorem `issuesFor_of_issue`: what becomes of claims with a lifetime.
- Theorem `lifetimes_exact`: the lifetimes of access and refresh tokens.
-/

namespace Gatehouse

open Store (Role)

variable {pick : TtlOverride → Option Nat} {overrides : List TtlOverride} {userId : String}
  {roles : List Role} {base ttl : Nat} {o : TtlOverride} {c : Config} {requested : Nat}

/-! ## Overrides -/

/-- The override is for the user or for one of the roles, and sets a positive lifetime. -/
structure TtlOverride.Sets (o : TtlOverride) (pick : TtlOverride → Option Nat) (userId : String)
    (roles : List Role) (ttl : Nat) : Prop where
  concerns : userId ∈ o.userIds ∨ ∃ role ∈ roles, role.id ∈ o.roleIds
  given : pick o = some ttl
  positive : 0 < ttl

/-- The lifetime that an override sets, if it sets one. -/
def TtlOverride.set? (o : TtlOverride) (pick : TtlOverride → Option Nat) (userId : String)
    (roles : List Role) : Option Nat :=
  if o.appliesTo userId roles then (pick o).filter (· > 0) else none

theorem TtlOverride.set?_eq_some_iff :
    o.set? pick userId roles = some ttl ↔ o.Sets pick userId roles ttl := by
  have concerns : o.appliesTo userId roles = true ↔
      userId ∈ o.userIds ∨ ∃ role ∈ roles, role.id ∈ o.roleIds := by
    simp [TtlOverride.appliesTo]
  unfold TtlOverride.set?
  by_cases applies : o.appliesTo userId roles = true
  · rw [if_pos applies, Option.filter_eq_some_iff]
    constructor
    · rintro ⟨given, positive⟩
      exact ⟨concerns.1 applies, given, by simpa using positive⟩
    · rintro ⟨-, given, positive⟩
      exact ⟨given, by simpa using positive⟩
  · rw [if_neg applies]
    constructor
    · intro impossible
      cases impossible
    · intro sets
      exact absurd (concerns.2 sets.concerns) applies

theorem TtlOverride.set?_eq_none_iff :
    o.set? pick userId roles = none ↔ ∀ ttl, ¬o.Sets pick userId roles ttl := by
  simp only [Option.eq_none_iff_forall_ne_some, ne_eq, set?_eq_some_iff]

/-- The overrides are searched from the last one. -/
theorem overriddenTtl_eq :
    overriddenTtl pick overrides userId roles =
      overrides.reverse.findSome? (·.set? pick userId roles) := by
  rw [overriddenTtl, List.filterMap_filter, List.getLast?_filterMap]
  rfl

/-- The lifetime that the last override sets that sets any, and the one of the settings where none
does. -/
inductive StandardTtl (pick : TtlOverride → Option Nat) (base : Nat) (overrides : List TtlOverride)
    (userId : String) (roles : List Role) : Nat → Prop where
  | overridden {before after : List TtlOverride} {o : TtlOverride} {ttl : Nat}
      (place : overrides = before ++ o :: after) (sets : o.Sets pick userId roles ttl)
      (last : ∀ later ∈ after, ∀ other, ¬later.Sets pick userId roles other) :
      StandardTtl pick base overrides userId roles ttl
  | base (unset : ∀ o ∈ overrides, ∀ ttl, ¬o.Sets pick userId roles ttl) :
      StandardTtl pick base overrides userId roles base

/-- The lifetime of an override that counts is the last one that is set. -/
theorem overriddenTtl_eq_some_iff :
    overriddenTtl pick overrides userId roles = some ttl ↔
      ∃ before o after, overrides = before ++ o :: after ∧ o.Sets pick userId roles ttl ∧
        ∀ later ∈ after, ∀ other, ¬later.Sets pick userId roles other := by
  rw [overriddenTtl_eq, List.findSome?_eq_some_iff]
  simp only [TtlOverride.set?_eq_some_iff, TtlOverride.set?_eq_none_iff]
  -- What the search passes first stands last in the settings.
  constructor
  · rintro ⟨after, o, before, place, sets, last⟩
    refine ⟨before.reverse, o, after.reverse, ?_, sets, ?_⟩
    · rw [← List.reverse_reverse overrides, place]
      simp
    · intro later mem
      exact last later (List.mem_reverse.1 mem)
  · rintro ⟨before, o, after, place, sets, last⟩
    refine ⟨after.reverse, o, before.reverse, ?_, sets, ?_⟩
    · rw [place]
      simp
    · intro later mem
      exact last later (List.mem_reverse.1 mem)

/-- No override counts when none sets a lifetime. -/
theorem overriddenTtl_eq_none_iff :
    overriddenTtl pick overrides userId roles = none ↔
      ∀ o ∈ overrides, ∀ ttl, ¬o.Sets pick userId roles ttl := by
  rw [overriddenTtl_eq, List.findSome?_eq_none_iff]
  simp only [List.mem_reverse, TtlOverride.set?_eq_none_iff]

/-- The lifetime after all overrides is the standard one. -/
theorem standardTtl_iff :
    StandardTtl pick base overrides userId roles ttl ↔
      (overriddenTtl pick overrides userId roles).getD base = ttl := by
  constructor
  · intro standard
    cases standard with
    | overridden place sets last =>
        rw [overriddenTtl_eq_some_iff.2 ⟨_, _, _, place, sets, last⟩]
        rfl
    | base unset =>
        rw [overriddenTtl_eq_none_iff.2 unset]
        rfl
  · rintro rfl
    cases last : overriddenTtl pick overrides userId roles with
    | none => exact .base (overriddenTtl_eq_none_iff.1 last)
    | some ttl =>
        obtain ⟨before, o, after, place, sets, last⟩ := overriddenTtl_eq_some_iff.1 last
        exact .overridden place sets last

/-! ## Requests -/

/-- How long an access token lives: as is standard where nothing is asked for, and else as long as
is asked for, up to the ceiling or, where there is none, up to what is standard. -/
inductive AccessLifetime (c : Config) (userId : String) (roles : List Role) (requested : Nat) :
    Nat → Prop where
  | standard {ttl : Nat} (unasked : requested = 0)
      (standard : StandardTtl (·.accessTtl) c.baseAccessTtl c.ttlOverrides userId roles ttl) :
      AccessLifetime c userId roles requested ttl
  | belowCeiling {ceiling : Nat} (asked : requested ≠ 0) (set : c.accessCeiling = some ceiling) :
      AccessLifetime c userId roles requested (min requested ceiling)
  | belowStandard {ttl : Nat} (asked : requested ≠ 0) (unset : c.accessCeiling = none)
      (standard : StandardTtl (·.accessTtl) c.baseAccessTtl c.ttlOverrides userId roles ttl) :
      AccessLifetime c userId roles requested (min requested ttl)

/-- How long a refresh token lives. -/
def RefreshLifetime (c : Config) (userId : String) (roles : List Role) (ttl : Nat) : Prop :=
  StandardTtl (·.refreshTtl) c.baseRefreshTtl c.ttlOverrides userId roles ttl

theorem accessLifetime_iff :
    AccessLifetime c userId roles requested ttl ↔ c.grantedTtl userId roles requested = ttl := by
  unfold Config.grantedTtl Config.accessTtl
  constructor
  · intro lifetime
    cases lifetime with
    | standard unasked standard =>
        rw [standardTtl_iff.1 standard]
        exact if_pos unasked
    | belowCeiling asked set => simp [asked, set]
    | belowStandard asked unset standard =>
        rw [standardTtl_iff.1 standard]
        simp [asked, unset]
  · rintro rfl
    have standard := standardTtl_iff.2 (Eq.refl (c.accessTtl userId roles))
    by_cases unasked : requested = 0
    · rw [if_pos unasked]
      exact .standard unasked standard
    · rw [if_neg unasked]
      cases set : c.accessCeiling with
      | none => exact .belowStandard unasked set standard
      | some ceiling => exact .belowCeiling unasked set

theorem refreshLifetime_iff :
    RefreshLifetime c userId roles ttl ↔ c.refreshTtl userId roles = ttl :=
  standardTtl_iff

/-- Who asks for a lifetime gets no more than that. -/
theorem grantedTtl_le (asked : requested ≠ 0) :
    c.grantedTtl userId roles requested ≤ requested := by
  simp only [Config.grantedTtl, if_neg asked]
  exact Nat.min_le_left _ _

/-- Who asks for a lifetime gets no more than the ceiling. -/
theorem grantedTtl_le_ceiling {ceiling : Nat} (asked : requested ≠ 0)
    (set : c.accessCeiling = some ceiling) : c.grantedTtl userId roles requested ≤ ceiling := by
  simp only [Config.grantedTtl, if_neg asked, set]
  exact Nat.min_le_right _ _

/-- Who asks for more does not get less. -/
theorem grantedTtl_mono {more : Nat} (asked : requested ≠ 0) (greater : requested ≤ more) :
    c.grantedTtl userId roles requested ≤ c.grantedTtl userId roles more := by
  have moreAsked : more ≠ 0 := by omega
  simp only [Config.grantedTtl, if_neg asked, if_neg moreAsked]
  omega

end Gatehouse

namespace Gatehouse.Token

open Http (Cookie Headers)
open Store (Role User)

variable {c : Config} {now : Time} {scope : Scope} {ttl : Nat} {headers headers' : Headers}
  {issued : IssuedToken} {withCookie : Bool}

/-! ## Ends of lifetimes -/

/-- A lifetime ends when it is over, or with the last time that can be written.  The clock does not
show times before the epoch. -/
theorem expiry_of_epoch (epoch : 0 ≤ now) (ttl : Nat) :
    expiry now ttl = min (now + (ttl : Int)) lastTime := by
  unfold expiry
  unfold Time at *
  omega

/-! ## Tokens with a lifetime -/

/-- A computation issues tokens for a purpose that live from now on for a lifetime: the token says
so, the caller is told so, and so is the browser if the token travels as a cookie. -/
structure IssuesFor (c : Config) (now : Time) (scope : Scope) (ttl : Nat) (settable : Prop)
    (cookie : String → Cookie) (withCookie : Bool) (x : Issuing IssuedToken) : Prop where
  /-- Only a secret can be missing and a cookie that cannot be set can be in the way. -/
  succeeds : ∀ headers, (∃ issued headers', x.run headers = (.ok issued, headers')) ↔
    c.key.isEmpty = false ∧ (withCookie = true → settable)
  claims : ∀ headers issued headers', x.run headers = (.ok issued, headers') →
    ∃ claims, Authentic c.key issued.token claims ∧ claims.scopes = [scope] ∧
      claims.issuedAt = now ∧ claims.notBefore = now ∧ claims.expiresAt = expiry now ttl ∧
      issued.expiresAt = claims.expiresAt
  cookies : ∀ headers issued headers', x.run headers = (.ok issued, headers') →
    if withCookie then
      ∃ line, headers' = headers.append "set-cookie" line ∧
        (cookie issued.token).header? = some line ∧ Cookie.lasts? line = some (ttl : Int)
    else headers' = headers

/-- Issuing new claims with a lifetime issues tokens that live for it, if their cookies do. -/
theorem issuesFor_of_issue (clock : IsTime now) {id : String} {user : User} {metadata : Metadata}
    {settable : Prop} {cookie : String → Cookie} (lasting : ∀ token, (cookie token).maxAge = ttl)
    (header : ∀ token,
      sign c.algorithm c.key (newClaims c now id user scope ttl metadata) = .ok token →
        (settable ∧ ∃ value, (cookie token).header? = some value) ∨
          (¬settable ∧ (cookie token).header? = none)) :
    IssuesFor c now scope ttl settable cookie withCookie (do
      let issued ← issue c (newClaims c now id user scope ttl metadata)
      if withCookie then setCookie (cookie issued.token)
      return issued) := by
  -- Whatever was signed was signed with a secret, so only the cookie needs the settings.
  constructor
  · intro headers
    constructor
    · rintro ⟨issued, headers', run⟩
      obtain ⟨signed, -, cookies⟩ := of_issue_run run
      refine ⟨secret_ne_nil_of_sign signed, ?_⟩
      rintro rfl
      obtain ⟨line, -, set⟩ := cookies
      rcases header _ signed with ⟨settable, -⟩ | ⟨-, unset⟩
      · exact settable
      · rw [unset] at set
        cases set
    · rintro ⟨given, settable⟩
      obtain ⟨token, signed⟩ := exists_sign (a := c.algorithm) given
        (newClaims c now id user scope ttl metadata)
      rw [issue_run signed]
      cases withCookie with
      | false => exact ⟨_, _, rfl⟩
      | true =>
          rcases header _ signed with ⟨-, line, set⟩ | ⟨unset, -⟩
          · rw [if_pos rfl, set]
            exact ⟨_, _, rfl⟩
          · exact absurd (settable rfl) unset
  · intro headers issued headers' run
    obtain ⟨signed, told, -⟩ := of_issue_run run
    exact ⟨_, authentic_of_sign signed (isTimely_newClaims clock), rfl, rfl, rfl, rfl, told⟩
  · intro headers issued headers' run
    obtain ⟨-, -, cookies⟩ := of_issue_run run
    cases withCookie with
    | false => exact cookies
    | true =>
        obtain ⟨line, added, set⟩ := cookies
        refine ⟨line, added, set, ?_⟩
        rw [Http.eq_of_fieldValue? set, Cookie.lasts?_text, lasting]

/-- Where there is a secret and the cookie can be set, a token is issued that ends with its
lifetime. -/
theorem IssuesFor.exists_issued {settable : Prop} {cookie : String → Cookie}
    {x : Issuing IssuedToken} (issues : IssuesFor c now scope ttl settable cookie withCookie x)
    (given : c.key.isEmpty = false) (set : withCookie = true → settable) (headers : Headers) :
    ∃ issued headers', x.run headers = (.ok issued, headers') ∧
      issued.expiresAt = expiry now ttl := by
  obtain ⟨issued, headers', run⟩ := (issues.succeeds headers).2 ⟨given, set⟩
  obtain ⟨claims, -, -, -, -, ends, told⟩ := issues.claims headers issued headers' run
  exact ⟨issued, headers', run, told.trans ends⟩

/-! ## Access and refresh tokens -/

/-- An access token lives from its issue as long as the settings, their overrides and the request
say, and a refresh token as long as the settings and their overrides say; the token, the caller and
the cookie agree about it.  The end of a lifetime does not come after the last time that can be
written.  Who asks for a lifetime gets no more than that and no more than the ceiling, and who asks
for more does not get less. -/
theorem lifetimes_exact (clock : IsTime now) (c : Config) (id : String) (user : User)
    (roles : List Role) (requested : Nat) (parent : Option String) (kind : LoginKind)
    (withCookie : Bool) :
    (∃ ttl, (∀ other, AccessLifetime c user.id roles requested other ↔ other = ttl) ∧
      IssuesFor c now .access ttl (AccessSettable c) (accessCookie c · ttl) withCookie
        (issueAccess c now id user roles requested parent kind withCookie) ∧
      (requested ≠ 0 → ttl ≤ requested ∧
        (∀ ceiling, c.accessCeiling = some ceiling → ttl ≤ ceiling) ∧
        ∀ more greater, requested ≤ more → AccessLifetime c user.id roles more greater →
          ttl ≤ greater ∧ expiry now ttl ≤ expiry now greater)) ∧
    (∃ ttl, (∀ other, RefreshLifetime c user.id roles other ↔ other = ttl) ∧
      IssuesFor c now .refresh ttl (RefreshSettable c) (refreshCookie c · ttl) withCookie
        (issueRefresh c now id user roles kind withCookie)) ∧
    (0 ≤ now → ∀ ttl : Nat, expiry now ttl = min (now + (ttl : Int)) lastTime) := by
  refine ⟨⟨c.grantedTtl user.id roles requested, ?_, ?_, ?_⟩,
    ⟨c.refreshTtl user.id roles, ?_, ?_⟩, expiry_of_epoch⟩
  · intro other
    rw [accessLifetime_iff, eq_comm]
  · apply issuesFor_of_issue clock
    · intro token
      rfl
    · intro token signed
      exact header?_accessCookie signed _
  · intro asked
    refine ⟨grantedTtl_le asked, ?_, ?_⟩
    · intro ceiling set
      exact grantedTtl_le_ceiling asked set
    · intro more greater atLeast lifetime
      obtain rfl := accessLifetime_iff.1 lifetime
      have longer : c.grantedTtl user.id roles requested ≤ c.grantedTtl user.id roles more :=
        grantedTtl_mono asked atLeast
      exact ⟨longer, expiry_le_expiry (Int.le_refl now) longer⟩
  · intro other
    rw [refreshLifetime_iff, eq_comm]
  · apply issuesFor_of_issue clock
    · intro token
      rfl
    · intro token signed
      exact header?_refreshCookie signed _

/-- Settings with a ceiling and overrides, of which the first concerns a user, the second guests,
and the third somebody else. -/
def guestConfig : Config :=
  { secret := "sesame"
    accessCeiling := some 40
    ttlOverrides := [⟨["1"], [], some 300, some 500⟩, ⟨[], ["guest"], some 60, some 0⟩,
      ⟨["2"], [], some 10, some 20⟩] }

/-- The user of the first override, who is a guest. -/
def guestUser : User :=
  { User.blank with id := "1" }

/-- The access token that the guest is given lives for a minute, or for the forty seconds of the
ceiling where more is asked for, and the refresh token for five hundred seconds. -/
theorem guestUser_lifetimes :
    IsTime 1000 ∧
    (∃ issued headers', (issueAccess guestConfig 1000 "a" guestUser [⟨"guest", "", ""⟩] 0 none
        .password true).run .empty = (.ok issued, headers') ∧ issued.expiresAt = 1060) ∧
    (∃ issued headers', (issueAccess guestConfig 1000 "b" guestUser [⟨"guest", "", ""⟩] 90 none
        .password true).run .empty = (.ok issued, headers') ∧ issued.expiresAt = 1040) ∧
    ∃ issued headers', (issueRefresh guestConfig 1000 "a" guestUser [⟨"guest", "", ""⟩]
        .password true).run .empty = (.ok issued, headers') ∧ issued.expiresAt = 1500 := by
  have clock : IsTime 1000 := by decide
  have access : AccessSettable guestConfig := ⟨by decide, nofun⟩
  have refresh : RefreshSettable guestConfig := ⟨by decide, by decide, nofun⟩
  have given : guestConfig.key.isEmpty = false := by decide
  obtain ⟨⟨standard, known, issues, -⟩, ⟨long, knownLong, issuesLong⟩, -⟩ :=
    lifetimes_exact clock guestConfig "a" guestUser [⟨"guest", "", ""⟩] 0 none .password true
  obtain ⟨⟨cut, knownCut, issuesCut, -⟩, -, -⟩ :=
    lifetimes_exact clock guestConfig "b" guestUser [⟨"guest", "", ""⟩] 90 none .password true
  obtain rfl := (known 60).1 (accessLifetime_iff.2 (by decide))
  obtain rfl := (knownLong 500).1 (refreshLifetime_iff.2 (by decide))
  obtain rfl := (knownCut 40).1 (accessLifetime_iff.2 (by decide))
  exact ⟨clock, issues.exists_issued given (fun _ => access) _,
    issuesCut.exists_issued given (fun _ => access) _,
    issuesLong.exists_issued given (fun _ => refresh) _⟩

end Gatehouse.Token
