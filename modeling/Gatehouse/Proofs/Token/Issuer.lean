import Gatehouse.Proofs.Http.Cookie
import Gatehouse.Proofs.Token.Signed
import Gatehouse.Token.Issuer

/-!
# Issuing tokens - What is issued

A token that is issued was signed for the claims of its kind, under the id that it was given.

Where there is a secret and the cookies have plain parts, every token can be issued.

Main definition: `CanIssue`: the settings with which tokens can be issued.

Main results:

- Theorem `issue_ok`, theorem `issueAccess_ok` and theorem `issueRefresh_ok`: what a token that was
  issued was signed for.
- Theorem `expiry_refreshTtl_le`: no refresh token outlives the longest lifetime from its issue.
- Theorem `verify_newClaims`: a new token is verified to its claims within its window.
- Theorem `exists_issueAccess` and theorem `exists_issueRefresh`: tokens that can be issued.
-/

namespace Gatehouse.Token

open Http (Headers)
open Store (Role User)

variable {c : Config} {now : Time} {id : String} {user : User} {roles : List Role}
  {headers headers' : Headers} {issued : IssuedToken}

/-! ## Ends of lifetimes -/

/-- A longer lifetime that begins no earlier ends no earlier. -/
theorem expiry_le_expiry {now' : Time} {ttl ttl' : Nat} (hnow : now ≤ now') (httl : ttl ≤ ttl') :
    expiry now ttl ≤ expiry now' ttl' := by
  unfold expiry
  generalize lastTime = last
  unfold Time at *
  omega

/-- The end of a lifetime can be written. -/
theorem isTime_expiry (h : IsTime now) (ttl : Nat) : IsTime (expiry now ttl) := by
  obtain ⟨low, high⟩ := h
  unfold IsTime expiry lastTime
  unfold Word.firstSigned64 Word.lastSigned64 at *
  unfold Time at *
  omega

/-- A lifetime ends no earlier than it begins. -/
theorem le_expiry (h : IsTime now) (ttl : Nat) : now ≤ expiry now ttl := by
  obtain ⟨-, high⟩ := h
  unfold expiry lastTime
  unfold Word.lastSigned64 at *
  unfold Time at *
  omega

/-- The greatest of some numbers is no less than the one that the search starts with. -/
theorem start_le_foldl_max (start : Nat) (ns : List Nat) : start ≤ ns.foldl max start := by
  induction ns generalizing start with
  | nil => exact Nat.le_refl _
  | cons n rest ih => exact Nat.le_trans (Nat.le_max_left start n) (ih (max start n))

/-- The greatest of some numbers is no less than any of them. -/
theorem mem_le_foldl_max {n : Nat} {ns : List Nat} (h : n ∈ ns) (start : Nat) :
    n ≤ ns.foldl max start := by
  induction ns generalizing start with
  | nil => cases h
  | cons first rest ih =>
      rcases List.mem_cons.1 h with rfl | h
      · exact Nat.le_trans (Nat.le_max_right start n) (start_le_foldl_max _ rest)
      · exact ih h (max start first)

/-- No user gets a refresh token with more than the longest lifetime. -/
theorem refreshTtl_le_longest (c : Config) (userId : String) (roles : List Role) :
    c.refreshTtl userId roles ≤ c.longestRefreshTtl := by
  unfold Config.refreshTtl Config.longestRefreshTtl
  cases h : overriddenTtl (·.refreshTtl) c.ttlOverrides userId roles with
  | none => exact start_le_foldl_max _ _
  | some ttl =>
      obtain ⟨o, ho, hpick⟩ := List.mem_filterMap.1 (List.mem_of_getLast? h)
      refine mem_le_foldl_max ?_ _
      exact List.mem_filterMap.2
        ⟨o, (List.mem_filter.1 ho).1, (Option.filter_eq_some_iff.1 hpick).1⟩

/-- No refresh token outlives the longest lifetime from a time at which it was issued already. -/
theorem expiry_refreshTtl_le {later : Time} (h : now ≤ later) (userId : String) :
    expiry now (c.refreshTtl userId roles) ≤ expiry later c.longestRefreshTtl :=
  expiry_le_expiry h (refreshTtl_le_longest c userId roles)

/-! ## New tokens -/

/-- The times of new claims can be written. -/
theorem isTimely_newClaims (h : IsTime now) {scope : Scope} {ttl : Nat} {metadata : Metadata} :
    (newClaims c now id user scope ttl metadata).IsTimely :=
  ⟨h, h, isTime_expiry h ttl⟩

/-- The window of a new token reaches from its issue to the end of its lifetime. -/
theorem checkWindow_newClaims (epoch : 0 ≤ now) (c : Config) (id : String) (user : User)
    (scope : Scope) (ttl : Nat) (metadata : Metadata) (t : Time) :
    checkWindow t (newClaims c now id user scope ttl metadata) = .ok () ↔
      now ≤ t ∧ t ≤ expiry now ttl := by
  have written : 0 ≤ expiry now ttl := by
    unfold expiry lastTime Word.lastSigned64
    unfold Time at *
    omega
  rw [checkWindow_eq_ok]
  exact ⟨fun ⟨_, alive, begun⟩ => ⟨begun epoch, alive⟩,
    fun ⟨begun, alive⟩ => ⟨written, alive, fun _ => begun⟩⟩

/-- A new token is verified to its claims within its window. -/
theorem verify_newClaims {a : Algorithm} {secret : Bytes} {token : String} {scope : Scope}
    {ttl : Nat} {metadata : Metadata} (epoch : 0 ≤ now) (time : IsTime now)
    (signed : sign a secret (newClaims c now id user scope ttl metadata) = .ok token) {t : Time}
    (begun : now ≤ t) (alive : t ≤ expiry now ttl) :
    verify secret t token = .ok (newClaims c now id user scope ttl metadata) := by
  rw [verify_sign signed (isTimely_newClaims time),
    (checkWindow_newClaims epoch c id user scope ttl metadata t).2 ⟨begun, alive⟩]
  rfl

/-- Issuing signs and leaves the header alone. -/
theorem issue_ok {claims : Claims} (h : (issue c claims).run headers = (.ok issued, headers')) :
    sign c.algorithm c.key claims = .ok issued.token ∧ issued.id = claims.id ∧
      headers' = headers := by
  unfold issue at h
  split at h
  · cases h
    exact ⟨‹_›, rfl, rfl⟩
  · cases h

/-- What follows a part that ends well starts with the header that the part left. -/
theorem Issuing.run_bind_ok {α β : Type} {x : Issuing α} {f : α → Issuing β} {a : α}
    (h : x.run headers = (.ok a, headers')) : (x >>= f).run headers = (f a).run headers' := by
  have unfolded : (x >>= f).run headers =
      (ExceptT.bindCont f (x.run headers).1) (x.run headers).2 := rfl
  rw [unfolded, h]
  rfl

/-- What follows a part that ends well has the value of that part. -/
theorem Issuing.exists_of_bind {α β : Type} {x : Issuing α} {f : α → Issuing β} {b : β}
    (h : (x >>= f).run headers = (.ok b, headers')) :
    ∃ a headers₁, x.run headers = (.ok a, headers₁) ∧ (f a).run headers₁ = (.ok b, headers') := by
  have unfolded : (x >>= f).run headers =
      (ExceptT.bindCont f (x.run headers).1) (x.run headers).2 := rfl
  rw [unfolded] at h
  rcases hx : x.run headers with ⟨r, headers₁⟩
  rw [hx] at h
  cases r with
  | ok a => exact ⟨a, headers₁, rfl, h⟩
  | error e => cases h

/-- A token that travels as a cookie or does not was signed. -/
theorem issue_withCookie_ok {claims : Claims} {f : String → Http.Cookie} {withCookie : Bool}
    (h : (do
      let issued ← issue c claims
      if withCookie then setCookie (f issued.token)
      return issued : Issuing IssuedToken).run headers = (.ok issued, headers')) :
    sign c.algorithm c.key claims = .ok issued.token ∧ issued.id = claims.id := by
  obtain ⟨made, headers₁, hissue, h⟩ := Issuing.exists_of_bind h
  obtain ⟨hsign, hid, -⟩ := issue_ok hissue
  cases withCookie with
  | false =>
      cases h
      exact ⟨hsign, hid⟩
  | true =>
      rw [if_pos rfl] at h
      obtain ⟨⟨⟩, headers₂, -, h⟩ := Issuing.exists_of_bind h
      cases h
      exact ⟨hsign, hid⟩

/-- An access token that was issued was signed. -/
theorem issueAccess_ok {requested : Nat} {parent : Option String} {kind : LoginKind}
    {withCookie : Bool}
    (h : (issueAccess c now id user roles requested parent kind withCookie).run headers =
      (.ok issued, headers')) :
    sign c.algorithm c.key (accessClaims c now id user roles requested parent kind) =
      .ok issued.token ∧ issued.id = id := by
  unfold issueAccess at h
  exact issue_withCookie_ok (f := fun token => accessCookie c token _) h

/-- A refresh token that was issued was signed. -/
theorem issueRefresh_ok {kind : LoginKind} {withCookie : Bool}
    (h : (issueRefresh c now id user roles kind withCookie).run headers =
      (.ok issued, headers')) :
    sign c.algorithm c.key (refreshClaims c now id user roles kind) = .ok issued.token ∧
      issued.id = id := by
  unfold issueRefresh at h
  exact issue_withCookie_ok (f := fun token => refreshCookie c token _) h

/-! ## Issuing that ends well -/

/-- With a secret, everything can be signed. -/
theorem exists_sign {a : Algorithm} {secret : Bytes} (h : secret.isEmpty = false)
    (claims : Claims) : ∃ token, sign a secret claims = .ok token := by
  rw [sign, h]
  exact ⟨_, rfl⟩

/-- A token may stand in a cookie. -/
theorem isPairText_of_sign {a : Algorithm} {secret : Bytes} {claims : Claims} {token : String}
    (h : sign a secret claims = .ok token) : Http.IsPairText token ∧ token ≠ "" := by
  have letters : ∀ n < 64, 32 < (Base64.urlSafe.letter n).toNat ∧
      (Base64.urlSafe.letter n).toNat < 127 ∧ Base64.urlSafe.letter n ≠ ';' ∧
      Base64.urlSafe.letter n ≠ '=' := by decide
  have encoded : ∀ bs, Http.IsPairText (Base64.encode Base64.urlSafe bs) := by
    intro bs c hc
    rw [Base64.encode, String.toList_ofList] at hc
    obtain ⟨n, hn, rfl⟩ := Base64.mem_encodeChars hc
    exact letters n hn
  have dot : Http.IsPairText "." := by decide
  rw [sign, secret_ne_nil_of_sign h] at h
  obtain rfl := Except.ok.inj h
  constructor
  · exact (((encoded _).append dot).append (encoded _)).append dot |>.append (encoded _)
  · intro empty
    have chars := congrArg String.toList empty
    simp [signedMessage] at chars

/-- The settings with which tokens can be signed and cookies can be set. -/
structure CanIssue (c : Config) : Prop where
  secret : c.key.isEmpty = false
  access : Http.IsPlain c.accessCookie
  refresh : Http.IsPlain c.refreshCookie
  path : Http.IsPlain c.refreshPath
  domain : ∀ d, c.cookieDomain = some d → Http.IsPlain d

/-- A cookie of plain parts is set. -/
theorem setCookie_run {cookie : Http.Cookie} {value : Bytes} (h : cookie.header? = some value)
    (headers : Headers) :
    (setCookie cookie).run headers = (.ok (), headers.append "set-cookie" value) := by
  rw [setCookie, h]
  rfl

/-- A token is issued and its cookie set, where both is possible. -/
theorem exists_issue_withCookie (can : CanIssue c) {f : String → Http.Cookie}
    (settable : ∀ token, Http.IsPlain token → ∃ value, (f token).header? = some value)
    (claims : Claims) (headers : Headers) :
    ∃ issued headers', (do
      let issued ← issue c claims
      if true then setCookie (f issued.token)
      return issued : Issuing IssuedToken).run headers = (.ok issued, headers') := by
  obtain ⟨token, signed⟩ := exists_sign (a := c.algorithm) can.secret claims
  obtain ⟨value, hvalue⟩ := settable token (isPairText_of_sign signed).1.isPlain
  have issued : (issue c claims).run headers =
      (.ok ⟨token, claims.id, claims.expiresAt⟩, headers) := by
    rw [issue, signed]
    rfl
  refine ⟨⟨token, claims.id, claims.expiresAt⟩, headers.append "set-cookie" value, ?_⟩
  rw [Issuing.run_bind_ok issued, if_pos rfl, Issuing.run_bind_ok (setCookie_run hvalue _)]
  rfl

/-- An access token is issued with its cookie. -/
theorem exists_issueAccess (can : CanIssue c) (now : Time) (id : String) (user : User)
    (roles : List Role) (requested : Nat) (parent : Option String) (kind : LoginKind)
    (headers : Headers) :
    ∃ issued headers',
      (issueAccess c now id user roles requested parent kind true).run headers =
        (.ok issued, headers') :=
  have everywhere : Http.IsPlain "/" := by decide
  exists_issue_withCookie can (f := fun token => accessCookie c token _)
    (fun _ plain => ⟨_, Http.Cookie.header?_of_isPlain can.access plain everywhere can.domain⟩) _ _

/-- A refresh token is issued with its cookie. -/
theorem exists_issueRefresh (can : CanIssue c) (now : Time) (id : String) (user : User)
    (roles : List Role) (kind : LoginKind) (headers : Headers) :
    ∃ issued headers', (issueRefresh c now id user roles kind true).run headers =
      (.ok issued, headers') :=
  exists_issue_withCookie can (f := fun token => refreshCookie c token _)
    (fun _ plain => ⟨_, Http.Cookie.header?_of_isPlain can.refresh plain can.path can.domain⟩) _ _

/-- The browser can be made to drop both cookies. -/
theorem exists_clearCookies (can : CanIssue c) (headers : Headers) :
    ∃ headers', (clearCookies c).run headers = (.ok (), headers') := by
  have empty : Http.IsPlain "" := by decide
  have everywhere : Http.IsPlain "/" := by decide
  have first := setCookie_run (Http.Cookie.header?_of_isPlain
    (c := .cleared c.accessCookie (cookieScope c "/")) can.access empty everywhere can.domain)
  have second := setCookie_run (Http.Cookie.header?_of_isPlain
    (c := .cleared c.refreshCookie (cookieScope c c.refreshPath)) can.refresh empty can.path
      can.domain)
  exact ⟨_, (Issuing.run_bind_ok (first headers)).trans (second _)⟩

/-! ## Cookies that are dropped -/

/-- A line that makes the browser drop the cookie of an access token or of a refresh token. -/
def DropsCookie (c : Config) (line : String × Bytes) : Prop :=
  line.1 = "set-cookie" ∧
    ∃ cookie ∈ [Http.Cookie.cleared c.accessCookie (cookieScope c "/"),
      Http.Cookie.cleared c.refreshCookie (cookieScope c c.refreshPath)],
      cookie.header? = some line.2

/-- Setting a cookie adds its line or nothing. -/
theorem setCookie_lines (cookie : Http.Cookie) (headers : Headers) :
    ∃ added, ((setCookie cookie).run headers).2.lines = headers.lines ++ added ∧
      ∀ line ∈ added, line.1 = "set-cookie" ∧ cookie.header? = some line.2 := by
  unfold setCookie
  cases hv : cookie.header? with
  | none => exact ⟨[], (List.append_nil _).symm, by simp⟩
  | some value => exact ⟨[("set-cookie", value)], rfl, by simp⟩

/-- Clearing the cookies adds no other lines than those that make the browser drop them. -/
theorem clearCookies_lines (c : Config) (headers : Headers) :
    ∃ added, ((clearCookies c).run headers).2.lines = headers.lines ++ added ∧
      ∀ line ∈ added, DropsCookie c line := by
  obtain ⟨first, hfirst, drops⟩ :=
    setCookie_lines (Http.Cookie.cleared c.accessCookie (cookieScope c "/")) headers
  have dropsFirst : ∀ line ∈ first, DropsCookie c line := fun line hline =>
    ⟨(drops line hline).1, _, List.mem_cons_self, (drops line hline).2⟩
  have unfolded : (clearCookies c).run headers = ExceptT.bindCont
      (fun _ => setCookie (Http.Cookie.cleared c.refreshCookie (cookieScope c c.refreshPath)))
      ((setCookie (Http.Cookie.cleared c.accessCookie (cookieScope c "/"))).run headers).1
      ((setCookie (Http.Cookie.cleared c.accessCookie (cookieScope c "/"))).run headers).2 := rfl
  rw [unfolded]
  rcases hset : (setCookie (Http.Cookie.cleared c.accessCookie (cookieScope c "/"))).run headers
    with ⟨r, headers₁⟩
  rw [hset] at hfirst
  cases r with
  | error e => exact ⟨first, hfirst, dropsFirst⟩
  | ok a =>
      obtain ⟨second, hsecond, drops'⟩ := setCookie_lines
        (Http.Cookie.cleared c.refreshCookie (cookieScope c c.refreshPath)) headers₁
      refine ⟨first ++ second, ?_, fun line hline => ?_⟩
      · rw [← List.append_assoc, ← hfirst]
        exact hsecond
      · rcases List.mem_append.1 hline with hline | hline
        · exact dropsFirst line hline
        · exact ⟨(drops' line hline).1, _, by simp, (drops' line hline).2⟩

end Gatehouse.Token
