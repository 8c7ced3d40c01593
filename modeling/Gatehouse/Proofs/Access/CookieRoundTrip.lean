import Gatehouse.Proofs.Access.Success
import Gatehouse.Proofs.Access.Lifecycle
import Gatehouse.Proofs.Http.CookieJar
import Gatehouse.Proofs.Token.Cookies

/-!
# Sessions in the hands of a browser

A login hands its tokens to the browser in cookies.  Whatever else the browser sends and in whatever
order, the tokens are found again, and when the cookies are cleared the browser drops them.

Main definitions:

- `CookieSettings`: settings with which cookies come back as they were.
- `accessKey` and `refreshKey`: what a browser files both cookies under.
- `Service.SetsCookie`: the cookies that a login can set.

Main results:

- Theorem `Service.login_lines` and theorem `Service.mem_setPairs`: the lines with which a login that
  begins a session sets cookies, and the pairs in them.
- Theorem `Service.cookies_round_trip`: tokens that come back are found, and cleared cookies dropped.
-/

namespace Gatehouse.Token

open Http (Cookie Headers)
open Store (Role User)

variable {c : Config} {headers headers' : Headers} {issued : IssuedToken}

/-- Cookies come back as they were and can be cleared. -/
structure CookieSettings (c : Config) : Prop where
  different : c.accessCookie ≠ c.refreshCookie
  access : Cookie.IsName c.accessCookie
  refresh : Cookie.IsName c.refreshCookie
  path : Http.IsFieldText c.refreshPath
  domain : ∀ d, c.cookieDomain = some d → Http.IsFieldText d

/-! ## Lines -/

/-- A cookie that is set makes one line. -/
theorem setCookie_ok {cookie : Cookie}
    (h : (setCookie cookie).run headers = (.ok (), headers')) :
    headers' = headers.append "set-cookie" (utf8 cookie.text) := by
  unfold setCookie at h
  cases made : cookie.header? with
  | none =>
      rw [made] at h
      cases h
  | some value =>
      rw [made] at h
      cases h
      rw [Http.eq_of_fieldValue? made]

/-- Issuing a token with its cookie adds the line of the cookie. -/
theorem issue_withCookie_lines {claims : Claims} {f : String → Cookie}
    (h : (do
      let issued ← issue c claims
      if true then setCookie (f issued.token)
      return issued : Issuing IssuedToken).run headers = (.ok issued, headers')) :
    headers' = headers.append "set-cookie" (utf8 (f issued.token).text) := by
  obtain ⟨made, headers₁, hissue, h₁⟩ := Issuing.exists_of_bind h
  obtain ⟨-, -, rfl⟩ := issue_ok hissue
  rw [if_pos rfl] at h₁
  obtain ⟨⟨⟩, headers₂, set, h₂⟩ := Issuing.exists_of_bind h₁
  cases h₂
  exact setCookie_ok set

theorem issueAccess_lines {now : Time} {id : String} {user : User} {roles : List Role}
    {requested : Nat} {parent : Option String} {kind : LoginKind}
    (h : (issueAccess c now id user roles requested parent kind true).run headers =
      (.ok issued, headers')) :
    headers' = headers.append "set-cookie" (utf8 (accessCookie c issued.token
      (c.grantedTtl user.id roles requested)).text) := by
  unfold issueAccess at h
  exact issue_withCookie_lines (f := fun token => accessCookie c token _) h

theorem issueRefresh_lines {now : Time} {id : String} {user : User} {roles : List Role}
    {kind : LoginKind}
    (h : (issueRefresh c now id user roles kind true).run headers = (.ok issued, headers')) :
    headers' = headers.append "set-cookie" (utf8 (refreshCookie c issued.token
      (c.refreshTtl user.id roles)).text) := by
  unfold issueRefresh at h
  exact issue_withCookie_lines (f := fun token => refreshCookie c token _) h

/-- What clears the cookie of access tokens. -/
def clearedAccess (c : Config) : Cookie :=
  .cleared c.accessCookie (cookieScope c "/")

/-- What clears the cookie of refresh tokens. -/
def clearedRefresh (c : Config) : Cookie :=
  .cleared c.refreshCookie (cookieScope c c.refreshPath)

theorem isFieldText_of_isName {name : String} (h : Cookie.IsName name) : Http.IsFieldText name := by
  obtain ⟨text, read⟩ := Option.isSome_iff_exists.1 h.readable
  rw [Http.readable?] at read
  split at read
  · rename_i readable
    refine List.all_eq_true.2 fun b mem => ?_
    have byte := List.all_eq_true.1 readable b mem
    simp only [Http.isReadableByte, Http.isValueByte, Bool.or_eq_true, Bool.and_eq_true,
      decide_eq_true_eq, bne_iff_ne, beq_iff_eq] at byte ⊢
    rcases byte with ⟨low, high⟩ | tab
    · exact .inl ⟨low, UInt8.ne_of_lt high⟩
    · exact .inr tab
  · cases read

/-- Both cookies can be cleared. -/
theorem clearCookies_run (settings : CookieSettings c) (headers : Headers) :
    (clearCookies c).run headers = (.ok (), (headers.append "set-cookie"
      (utf8 (clearedAccess c).text)).append "set-cookie" (utf8 (clearedRefresh c).text)) :=
  clearCookies_run_of_settable ⟨isFieldText_of_isName settings.access, settings.domain⟩
    ⟨isFieldText_of_isName settings.refresh, settings.path, settings.domain⟩ headers

/-- What a browser files the cookie of access tokens under. -/
def accessKey (c : Config) : Cookie.Key :=
  Cookie.keyOf c.accessCookie (cookieScope c "/")

/-- What a browser files the cookie of refresh tokens under. -/
def refreshKey (c : Config) : Cookie.Key :=
  Cookie.keyOf c.refreshCookie (cookieScope c c.refreshPath)

/-- Clearing the cookies writes a line for each of their keys. -/
theorem read?_cleared (settings : CookieSettings c) :
    Cookie.read? (utf8 (clearedAccess c).text) = some ⟨accessKey c, "", some 0⟩ ∧
    Cookie.read? (utf8 (clearedRefresh c).text) = some ⟨refreshKey c, "", some 0⟩ :=
  ⟨Cookie.read?_cleared settings.access _, Cookie.read?_cleared settings.refresh _⟩

/-- A browser that takes the lines of both cleared cookies drops whatever it kept under their keys. -/
theorem takeAll_cleared (settings : CookieSettings c) (jar : Http.Jar) (headers : Headers)
    {key : Cookie.Key} (h : key = accessKey c ∨ key = refreshKey c) :
    jar.takeAll ((headers.append "set-cookie" (utf8 (clearedAccess c).text)).append "set-cookie"
      (utf8 (clearedRefresh c).text)) key = none := by
  rw [Http.Jar.takeAll, Headers.values_append, Headers.values_append, List.foldl_concat,
    List.foldl_concat, clearedRefresh, Http.Jar.take_cleared settings.refresh]
  by_cases refresh : key = refreshKey c
  · exact if_pos refresh
  · refine (if_neg refresh).trans ?_
    rw [clearedAccess, Http.Jar.take_cleared settings.access]
    exact if_pos (h.resolve_right refresh)

end Gatehouse.Token

namespace Gatehouse.Access.Service

open Http (Cookie Headers)
open Store (Memory User)
open Token (CookieSettings IssuedToken LoginKind)

variable {s : Service} {o : Occasion} {m m' : Memory} {out out' : Headers}
  {request : LoginRequest}

/-- The lines that set the cookies of a session. -/
def issueLines (c : Config) (session : Session) (ttl refreshTtl : Nat) : List Bytes :=
  (session.refreshToken.toList.map fun t => utf8 (Token.refreshCookie c t.token refreshTtl).text) ++
    [utf8 (Token.accessCookie c session.accessToken.token ttl).text]

/-- A session that begins sets the cookies of its tokens. -/
theorem establish_lines {user : User} {kind : LoginKind} {session : Session}
    (h : (s.establish o request user kind).runOn out m = (.ok session, out', m')) :
    ∃ ttl refreshTtl, out'.values "set-cookie" =
      out.values "set-cookie" ++ issueLines s.config session ttl refreshTtl := by
  unfold establish at h
  obtain ⟨roles, m₁, hroles, h₁⟩ := CookieFlow.exists_of_withCookies_bind
    (x := Flow.fetch (Store.Asking.rolesOfUser user.id)) h
  cases wanted : request.withRefreshToken with
  | false =>
      simp only [wanted, Bool.false_eq_true, if_false] at h₁
      obtain ⟨accessToken, out₁, haccess, h₂⟩ := CookieFlow.exists_of_issuing_bind h₁
      cases h₂
      have set := Headers.values_append out "set-cookie" (utf8 (Token.accessCookie s.config
        accessToken.token (s.config.grantedTtl user.id roles request.requestedTtl)).text)
      rw [← Token.issueAccess_lines haccess] at set
      exact ⟨_, 0, set⟩
  | true =>
      simp only [wanted, if_true] at h₁
      obtain ⟨refreshToken, out₁, hrefresh, h₂⟩ := CookieFlow.exists_of_issuing_bind h₁
      obtain ⟨accessToken, out₂, haccess, h₃⟩ := CookieFlow.exists_of_issuing_bind h₂
      cases h₃
      have first := Headers.values_append out "set-cookie" (utf8 (Token.refreshCookie s.config
        refreshToken.token (s.config.refreshTtl user.id roles)).text)
      have second := Headers.values_append out₁ "set-cookie" (utf8 (Token.accessCookie s.config
        accessToken.token (s.config.grantedTtl user.id roles request.requestedTtl)).text)
      rw [← Token.issueRefresh_lines hrefresh] at first
      rw [← Token.issueAccess_lines haccess, first, List.append_assoc] at second
      exact ⟨_, _, second⟩

/-- A login that begins a session ends the one that the request arrives with and begins the new one
then. -/
theorem exists_establish_of_login {current : Option Principal} {session : Session}
    (h : (s.login o request current).runOn out m = (.ok (.established session), out', m')) :
    ∃ user kind m₁, (s.establish o request user kind).runOn
      ((s.endCurrent current).runOn out m).2.1 m₁ = (.ok session, out', m') := by
  unfold login at h
  obtain ⟨⟨⟩, out₁, m₁, ended, h₁⟩ := CookieFlow.exists_of_bind h
  rw [ended]
  cases credential : request.credential with
  | password name password =>
      simp only [credential] at h₁
      obtain ⟨user, m₂, -, h₂⟩ := CookieFlow.exists_of_withCookies_bind h₁
      cases enrolled : user.hasSecondFactor with
      | true =>
          simp only [enrolled, if_true] at h₂
          obtain ⟨token, out₂, -, h₃⟩ := CookieFlow.exists_of_issuing_bind h₂
          cases h₃
      | false =>
          simp only [enrolled, Bool.false_eq_true, if_false] at h₂
          obtain ⟨made, out₂, m₃, established, h₃⟩ := CookieFlow.exists_of_bind h₂
          cases h₃
          exact ⟨user, _, m₂, established⟩
  | secondFactor token code =>
      simp only [credential] at h₁
      obtain ⟨user, m₂, -, h₂⟩ := CookieFlow.exists_of_withCookies_bind h₁
      obtain ⟨made, out₂, m₃, established, h₃⟩ := CookieFlow.exists_of_bind h₂
      cases h₃
      exact ⟨user, _, m₂, established⟩

/-- A login that begins a session clears the cookies of the session that the request arrives with,
if there is one, and then sets those of the new one. -/
theorem login_lines {current : Option Principal} {session : Session}
    (h : (s.login o request current).runOn out m = (.ok (.established session), out', m')) :
    ∃ cleared ttl refreshTtl,
      out'.values "set-cookie" =
        out.values "set-cookie" ++ cleared ++ issueLines s.config session ttl refreshTtl ∧
      ∀ line ∈ cleared, line = utf8 (Token.clearedAccess s.config).text ∨
        line = utf8 (Token.clearedRefresh s.config).text := by
  obtain ⟨user, kind, m₁, begun⟩ := exists_establish_of_login h
  obtain ⟨ttl, refreshTtl, lines⟩ := establish_lines begun
  obtain ⟨added, ended, drops⟩ := endCurrent_lines s current out m
  have before : ((s.endCurrent current).runOn out m).2.1.values "set-cookie" =
      out.values "set-cookie" ++ added.map (·.2) := by
    have named : added.filter (·.1 == "set-cookie") = added :=
      List.filter_eq_self.2 fun line mem => by simpa using (drops line mem).1
    rw [Headers.values, ended, List.filter_append, named, List.map_append]
    rfl
  refine ⟨added.map (·.2), ttl, refreshTtl, by rw [lines, before], ?_⟩
  intro value mem
  obtain ⟨line, new, rfl⟩ := List.mem_map.1 mem
  obtain ⟨-, cookie, cleared, made⟩ := drops line new
  rw [Http.eq_of_fieldValue? made]
  rcases List.mem_cons.1 cleared with rfl | cleared
  · exact .inl rfl
  · cases List.mem_singleton.1 cleared
    exact .inr rfl

/-- The tokens of a session that begins were signed. -/
theorem login_signed {current : Option Principal} {session : Session}
    (h : (s.login o request current).runOn out m = (.ok (.established session), out', m')) :
    ∀ t ∈ session.accessToken :: session.refreshToken.toList,
      ∃ claims, Token.sign s.config.algorithm s.config.key claims = .ok t.token := by
  have ends := login_ok h
  have tokens {user : User} {roles : List Store.Role} {kind : LoginKind} {parent : Option String}
      (begun : Begun s o request user roles kind session.refreshToken parent)
      (signed : Token.sign s.config.algorithm s.config.key (Token.accessClaims s.config o.now
        o.accessId user roles request.requestedTtl parent kind) = .ok session.accessToken.token) :
      ∀ t ∈ session.accessToken :: session.refreshToken.toList,
        ∃ claims, Token.sign s.config.algorithm s.config.key claims = .ok t.token := by
    intro t mem
    rcases List.mem_cons.1 mem with rfl | mem
    · exact ⟨_, signed⟩
    · generalize session.refreshToken = refreshToken at begun mem
      cases begun with
      | alone unwanted => cases mem
      | withRefresh issued wanted refreshSigned =>
          cases List.mem_singleton.1 mem
          exact ⟨_, refreshSigned⟩
  cases ends with
  | password _ _ _ _ begun signed => exact tokens begun signed
  | secondFactor _ _ _ begun signed => exact tokens begun signed

/-- The tokens of a session that begins may stand in pairs. -/
theorem login_plain {current : Option Principal} {session : Session}
    (h : (s.login o request current).runOn out m = (.ok (.established session), out', m')) :
    ∀ t ∈ session.accessToken :: session.refreshToken.toList,
      Http.IsPairText t.token ∧ t.token ≠ "" := by
  intro t mem
  obtain ⟨claims, signed⟩ := login_signed h t mem
  exact Token.isPairText_of_sign signed

theorem semicolon_notMem_of_login {current : Option Principal} {session : Session}
    (h : (s.login o request current).runOn out m = (.ok (.established session), out', m')) :
    ∀ t ∈ session.accessToken :: session.refreshToken.toList, ';' ∉ t.token.toList :=
  fun t mem semicolon => ((login_plain h t mem).1 _ semicolon).2.2.1 rfl

/-- The cookies that a login can set: those of the tokens of the session and cleared ones. -/
inductive SetsCookie (c : Config) (session : Session) : Cookie → Prop where
  | noAccess : SetsCookie c session (Token.clearedAccess c)
  | noRefresh : SetsCookie c session (Token.clearedRefresh c)
  | access (ttl : Nat) :
      SetsCookie c session (Token.accessCookie c session.accessToken.token ttl)
  | refresh {t : IssuedToken} (ttl : Nat) (given : session.refreshToken = some t) :
      SetsCookie c session (Token.refreshCookie c t.token ttl)

/-- Cookies that a login sets come back as they were. -/
theorem SetsCookie.comesBack {c : Config} {session : Session} {cookie : Cookie}
    (settings : CookieSettings c) (h : SetsCookie c session cookie)
    (plain : ∀ t ∈ session.accessToken :: session.refreshToken.toList, ';' ∉ t.token.toList) :
    Cookie.IsName cookie.name ∧ ';' ∉ cookie.value.toList := by
  cases h with
  | noAccess => exact ⟨settings.access, List.not_mem_nil⟩
  | noRefresh => exact ⟨settings.refresh, List.not_mem_nil⟩
  | access ttl => exact ⟨settings.access, plain _ List.mem_cons_self⟩
  | refresh ttl given => exact ⟨settings.refresh, plain _ (by simp [given])⟩

/-- Each line that a login writes sets one of these cookies. -/
theorem exists_cookie_of_line {current : Option Principal} {session : Session}
    (fresh : out.values "set-cookie" = [])
    (h : (s.login o request current).runOn out m = (.ok (.established session), out', m')) :
    ∀ line ∈ out'.values "set-cookie",
      ∃ cookie, SetsCookie s.config session cookie ∧ line = utf8 cookie.text := by
  intro line mem
  obtain ⟨cleared, ttl, refreshTtl, lines, drops⟩ := login_lines h
  rw [lines, fresh, List.nil_append, List.mem_append] at mem
  rcases mem with old | new
  · rcases drops line old with rfl | rfl
    · exact ⟨_, .noAccess, rfl⟩
    · exact ⟨_, .noRefresh, rfl⟩
  · rcases List.mem_append.1 new with new | new
    · obtain ⟨t, given, rfl⟩ := List.mem_map.1 new
      exact ⟨_, .refresh refreshTtl (Option.mem_toList.1 given), rfl⟩
    · exact ⟨_, .access ttl, List.mem_singleton.1 new⟩

/-- The pairs that a login sets: those of its tokens and empty ones. -/
theorem mem_setPairs {current : Option Principal} {session : Session}
    (settings : CookieSettings s.config) (fresh : out.values "set-cookie" = [])
    (h : (s.login o request current).runOn out m = (.ok (.established session), out', m')) :
    Cookie.pairText s.config.accessCookie session.accessToken.token ∈ Cookie.setPairs out' ∧
    (∀ t, session.refreshToken = some t →
      Cookie.pairText s.config.refreshCookie t.token ∈ Cookie.setPairs out') ∧
    ∀ pair ∈ Cookie.setPairs out',
      (∃ v, pair = Cookie.pairText s.config.accessCookie v ∧
        (v = "" ∨ v = session.accessToken.token)) ∨
      ∃ v, pair = Cookie.pairText s.config.refreshCookie v ∧
        (v = "" ∨ ∃ t, session.refreshToken = some t ∧ v = t.token) := by
  obtain ⟨cleared, ttl, refreshTtl, lines, -⟩ := login_lines h
  have plain := semicolon_notMem_of_login h
  have pairOf {cookie : Cookie} (set : SetsCookie s.config session cookie) :=
    Cookie.setPair_text (set.comesBack settings plain).1 (set.comesBack settings plain).2
  refine ⟨?_, ?_, ?_⟩
  · refine List.mem_filterMap.2 ⟨_, ?_, pairOf (.access ttl)⟩
    rw [lines, issueLines]
    simp
  · intro t given
    refine List.mem_filterMap.2 ⟨_, ?_, pairOf (.refresh refreshTtl given)⟩
    rw [lines, issueLines, given]
    simp
  · intro pair mem
    obtain ⟨line, written, made⟩ := List.mem_filterMap.1 mem
    obtain ⟨cookie, set, rfl⟩ := exists_cookie_of_line fresh h line written
    obtain rfl := Option.some.inj ((pairOf set).symm.trans made)
    cases set with
    | noAccess => exact .inl ⟨"", rfl, .inl rfl⟩
    | noRefresh => exact .inr ⟨"", rfl, .inl rfl⟩
    | access ttl => exact .inl ⟨_, rfl, .inr rfl⟩
    | @refresh t ttl given => exact .inr ⟨t.token, rfl, .inr ⟨t, given, rfl⟩⟩

/-- A browser files the lines of a login under the keys of both cookies. -/
theorem read?_of_login {current : Option Principal} {session : Session}
    (settings : CookieSettings s.config) (fresh : out.values "set-cookie" = [])
    (h : (s.login o request current).runOn out m = (.ok (.established session), out', m')) :
    ∀ line ∈ out'.values "set-cookie", ∃ set, Cookie.read? line = some set ∧
      (set.key = Token.accessKey s.config ∨ set.key = Token.refreshKey s.config) := by
  intro line mem
  obtain ⟨cookie, set, rfl⟩ := exists_cookie_of_line fresh h line mem
  obtain ⟨named, free⟩ := set.comesBack settings (semicolon_notMem_of_login h)
  refine ⟨_, Cookie.read?_text named free, ?_⟩
  cases set with
  | noAccess | access => exact .inl rfl
  | noRefresh | refresh => exact .inr rfl

/-- The names of the cookies. -/
def cookieNames (s : Service) : List String :=
  [s.config.accessCookie, s.config.refreshCookie]

/-- The access token of a login is found when its pair comes back. -/
theorem access_found {current : Option Principal} {session : Session} {h : Headers}
    (settings : CookieSettings s.config) (fresh : out.values "set-cookie" = [])
    (established :
      (s.login o request current).runOn out m = (.ok (.established session), out', m'))
    (sent : Cookie.SentBack s.cookieNames (Cookie.setPairs out') h
      (Cookie.pairText s.config.accessCookie session.accessToken.token)) :
    Cookie.find? h s.config.accessCookie = some session.accessToken.token := by
  obtain ⟨-, -, pairs⟩ := mem_setPairs settings fresh established
  obtain ⟨text, given⟩ := login_plain established _ List.mem_cons_self
  refine Cookie.find?_of_sentBack settings.access (by simp [cookieNames])
    (Text.trim_of_notBlank fun _ mem => text.isBlank mem) given (fun pair mem => ?_) sent
  rcases pairs pair mem with ⟨v, rfl, v_eq⟩ | ⟨v, rfl, -⟩
  · exact ⟨_, v, rfl, settings.access, fun _ => v_eq⟩
  · exact ⟨_, v, rfl, settings.refresh, fun same => absurd same.symm settings.different⟩

/-- The refresh token of a login is found when its pair comes back. -/
theorem refresh_found {current : Option Principal} {session : Session} {t : IssuedToken}
    {h : Headers} (settings : CookieSettings s.config) (fresh : out.values "set-cookie" = [])
    (established :
      (s.login o request current).runOn out m = (.ok (.established session), out', m'))
    (issued : session.refreshToken = some t)
    (sent : Cookie.SentBack s.cookieNames (Cookie.setPairs out') h
      (Cookie.pairText s.config.refreshCookie t.token)) :
    Cookie.find? h s.config.refreshCookie = some t.token := by
  obtain ⟨-, -, pairs⟩ := mem_setPairs settings fresh established
  obtain ⟨text, given⟩ := login_plain established t (by simp [issued])
  refine Cookie.find?_of_sentBack settings.refresh (by simp [cookieNames])
    (Text.trim_of_notBlank fun _ mem => text.isBlank mem) given (fun pair mem => ?_) sent
  rcases pairs pair mem with ⟨v, rfl, -⟩ | ⟨v, rfl, v_eq⟩
  · exact ⟨_, v, rfl, settings.access, fun same => absurd same settings.different⟩
  · refine ⟨_, v, rfl, settings.refresh, fun _ => v_eq.imp id ?_⟩
    rintro ⟨t', issued', rfl⟩
    cases issued.symm.trans issued'
    rfl

/-- After a login that begins a session, a browser that sends the pair of the access token back, among
other pairs and without a bearer token, is taken for the bearer of that token, and one that sends the
pair of the refresh token back has just that token traded.  The cookies can be cleared in any header:
for each line that set a cookie there is one that a browser files under the same name, path and
domain, and whatever the browser keeps, it drops what is filed there. -/
theorem cookies_round_trip {current : Option Principal} {session : Session}
    (settings : CookieSettings s.config) (fresh : out.values "set-cookie" = [])
    (established :
      (s.login o request current).runOn out m = (.ok (.established session), out', m')) :
    (Cookie.pairText s.config.accessCookie session.accessToken.token ∈ Cookie.setPairs out' ∧
      ∀ h, Http.bearer? h = none →
        Cookie.SentBack s.cookieNames (Cookie.setPairs out') h
          (Cookie.pairText s.config.accessCookie session.accessToken.token) →
        PresentedToken.ofHeaders? h s.config.accessCookie =
            some (.signed session.accessToken.token) ∧
          ∀ now, s.authenticateHeaders now h = s.authenticateSigned now session.accessToken.token) ∧
    (∀ t, session.refreshToken = some t →
      Cookie.pairText s.config.refreshCookie t.token ∈ Cookie.setPairs out' ∧
      ∀ h, Cookie.SentBack s.cookieNames (Cookie.setPairs out') h
          (Cookie.pairText s.config.refreshCookie t.token) →
        Cookie.find? h s.config.refreshCookie = some t.token ∧
          ∀ o' requestedTtl redirect, s.refresh o' h requestedTtl redirect =
            s.refreshSigned o' t.token requestedTtl redirect) ∧
    ∀ headers, ∃ headers', (Token.clearCookies s.config).run headers = (.ok (), headers') ∧
      ∀ line ∈ out'.values "set-cookie", ∃ set, Cookie.read? line = some set ∧
        (∃ line' ∈ headers'.values "set-cookie", ∃ cleared, Cookie.read? line' = some cleared ∧
          cleared.key = set.key) ∧
        ∀ jar : Http.Jar, jar.takeAll headers' set.key = none := by
  obtain ⟨accessSet, refreshSet, -⟩ := mem_setPairs settings fresh established
  refine ⟨⟨accessSet, ?_⟩, ?_, ?_⟩
  · intro h bare sent
    obtain ⟨claims, signed⟩ := login_signed established _ List.mem_cons_self
    have presented : PresentedToken.ofHeaders? h s.config.accessCookie =
        some (.signed session.accessToken.token) := by
      rw [PresentedToken.ofHeaders?, bare, access_found settings fresh established sent,
        Option.none_or, Option.map_some, PresentedToken.ofText_signed signed]
    refine ⟨presented, fun now => ?_⟩
    rw [authenticateHeaders, presented]
    rfl
  · intro t issued
    refine ⟨refreshSet t issued, fun h sent => ?_⟩
    have found := refresh_found settings fresh established issued sent
    refine ⟨found, fun o' requestedTtl redirect => ?_⟩
    rw [refresh, found]
  · intro headers
    refine ⟨_, Token.clearCookies_run settings headers, fun line mem => ?_⟩
    obtain ⟨set, read, key⟩ := read?_of_login settings fresh established line mem
    refine ⟨set, read, ?_, fun jar => Token.takeAll_cleared settings jar headers key⟩
    rw [Headers.values_append, Headers.values_append]
    rcases key with key | key
    · exact ⟨_, by simp, _, (Token.read?_cleared settings).1, key.symm⟩
    · exact ⟨_, by simp, _, (Token.read?_cleared settings).2, key.symm⟩

/-- A browser that has two pairs to send in one line, and another one in a second line. -/
def browserHeader (first second : String) : Headers :=
  ⟨[("cookie", utf8 (first ++ "; " ++ second)), ("cookie", utf8 "theme=dark")]⟩

/-- The browser sends its pairs first. -/
theorem pieces_browserHeader {first second : String} (plain : Http.IsPlain first)
    (plain' : Http.IsPlain second) (free : ';' ∉ first.toList) (free' : ';' ∉ second.toList) :
    Cookie.pieces (browserHeader first second) = [first, " " ++ second, "theme=dark"] := by
  have line : Http.readable? (utf8 (first ++ "; " ++ second)) = some (first ++ "; " ++ second) :=
    Http.readable?_utf8 ((plain.append (by decide)).append plain')
  have other : Http.readable? (utf8 "theme=dark") = some "theme=dark" := by rfl
  have joined : first ++ "; " ++ second = first ++ String.singleton ';' ++ (" " ++ second) :=
    String.toList_inj.1 (by simp)
  have split : Text.splitOn ';' (first ++ "; " ++ second) = [first, " " ++ second] := by
    rw [joined, Text.splitOn_cons free, Text.splitOn_of_notMem (by simpa using free')]
  have alone : Text.splitOn ';' "theme=dark" = ["theme=dark"] := by rfl
  simp [Cookie.pieces, browserHeader, Headers.values, line, other, split, alone]

/-- Both pairs of the browser come back, the second one behind the first. -/
theorem sentBack_browserHeader (names : List String) {set : List String}
    {name value name' value' : String} (named : Http.IsPairText name) (text : Http.IsPairText value)
    (named' : Http.IsPairText name') (text' : Http.IsPairText value')
    (first : Cookie.pairText name value ∈ set) :
    let h := browserHeader (Cookie.pairText name value) (Cookie.pairText name' value')
    Cookie.SentBack names set h (Cookie.pairText name value) ∧
      Cookie.SentBack names set h (Cookie.pairText name' value') := by
  have pieces := pieces_browserHeader
    ((named.isPlain.append (by decide)).append text.isPlain)
    ((named'.isPlain.append (by decide)).append text'.isPlain)
    (Cookie.semicolon_notMem_pair named text) (Cookie.semicolon_notMem_pair named' text')
  have blank : ∀ c ∈ " ".toList, Text.isBlank c = true := by
    intro c mem
    obtain rfl : c = ' ' := by simpa using mem
    decide
  have trimmed := Cookie.trim_pair named text
  refine ⟨⟨[], _, _, pieces, trimmed, nofun⟩, ⟨[_], _, _, pieces, ?_, fun other mem _ _ _ => ?_⟩⟩
  · rw [Text.trim, String.toList_append, Text.trimChars_append_left blank]
    exact Cookie.trim_pair named' text'
  · cases List.mem_singleton.1 mem
    rw [trimmed]
    exact first

theorem smallService_cookieSettings : CookieSettings smallService.config where
  different := by decide
  access := ⟨by rfl, by rfl, by decide, by decide⟩
  refresh := ⟨by rfl, by rfl, by decide, by decide⟩
  path := by decide
  domain d h := by cases h

/-- Alice logs in with her password and keeps the session. -/
def aliceLogsIn : LoginRequest :=
  ⟨.password "alice" "open", 0, true, none⟩

/-- Alice comes back before her session is over. -/
def aliceReturns : Occasion :=
  { aliceErrand with now := 1054 }

/-- Alice logs in and gets both cookies.  Her browser sends them back in the other order, together
with one of its own, and both tokens are found: a little later her refresh ends with a new access
token.  The browser drops the cookies when they are cleared. -/
theorem aliceCookies_round_trip :
    ∃ session out' t h, CookieSettings smallService.config ∧
      Headers.empty.values "set-cookie" = [] ∧
      (smallService.login aliceErrand aliceLogsIn none).runOn .empty (smallStore none) =
        (.ok (.established session), out', smallStore none) ∧
      session.refreshToken = some t ∧
      h = browserHeader
        (Cookie.pairText smallService.config.accessCookie session.accessToken.token)
        (Cookie.pairText smallService.config.refreshCookie t.token) ∧
      PresentedToken.ofHeaders? h smallService.config.accessCookie =
        some (.signed session.accessToken.token) ∧
      Cookie.find? h smallService.config.refreshCookie = some t.token ∧
      smallService.refresh aliceReturns h 0 none = smallService.refreshSigned aliceReturns t.token 0
        none ∧
      (∃ session' out'', (smallService.refresh aliceReturns h 0 none).runOn .empty (smallStore none) =
        (.ok session', out'', smallStore none)) ∧
      ∃ headers', (Token.clearCookies smallService.config).run out' = (.ok (), headers') ∧
        ∀ line ∈ out'.values "set-cookie", ∃ set, Cookie.read? line = some set ∧
          ∀ jar : Http.Jar, jar.takeAll headers' set.key = none := by
  have settings := smallService_cookieSettings
  have credential : aliceLogsIn.credential = .password "alice" "open" := rfl
  obtain ⟨session, out', roles, parent, login, begun, -⟩ := login_of_password smallService_canIssue
    aliceErrand .empty none credential (smallStore_loginUser? none) (alice_passwordMatches none) rfl
  obtain ⟨t, issued, signed⟩ : ∃ t, session.refreshToken = some t ∧
      Token.sign smallService.config.algorithm smallService.config.key (Token.refreshClaims
        smallService.config aliceErrand.now aliceErrand.refreshId (alice none) roles .password) =
          .ok t.token := by
    generalize session.refreshToken = refreshToken at begun
    cases begun with
    | alone unwanted => cases unwanted
    | withRefresh issued wanted signed => exact ⟨issued, rfl, signed⟩
  obtain ⟨⟨accessSet, accessFound⟩, refreshFound, cleared⟩ :=
    cookies_round_trip settings rfl login
  have refreshText : Http.IsPairText smallService.config.refreshCookie := by decide
  obtain ⟨sent, sent'⟩ := sentBack_browserHeader smallService.cookieNames (by decide)
    (login_plain login _ List.mem_cons_self).1 refreshText (login_plain login t (by simp [issued])).1
    accessSet
  obtain ⟨found, traded⟩ := (refreshFound t issued).2 _ sent'
  -- The refresh comes within the hundred seconds of the token.
  have ttl : smallService.config.refreshTtl (alice none).id roles = 100 := rfl
  have verified := Token.verify_newClaims (t := 1054) (by decide) (by decide) signed (by decide)
    (by rw [ttl]; decide)
  obtain ⟨session', out'', -, ended, -⟩ := refresh_of_verified (m := smallStore none)
    (o := aliceReturns) smallService_canIssue .empty 0 none found verified rfl rfl
    (smallStore_activeUser? none)
  obtain ⟨headers', clear, drops⟩ := cleared out'
  refine ⟨session, out', t, _, settings, rfl, login, issued, rfl, (accessFound _ rfl sent).1, found,
    traded aliceReturns 0 none, ⟨session', out'', ended⟩, headers', clear, fun line mem => ?_⟩
  obtain ⟨set, read, -, dropped⟩ := drops line mem
  exact ⟨set, read, dropped⟩

end Gatehouse.Access.Service
