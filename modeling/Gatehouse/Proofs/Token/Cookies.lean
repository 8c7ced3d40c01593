import Gatehouse.Proofs.Token.Issuer

/-!
# Issuing tokens - Cookies that can be set

A cookie can be set when its name, its path and the domain of all cookies may stand in a header.  The
settings decide that, and the token in the cookie does not.

Main definitions: `AccessSettable` and `RefreshSettable`: settings with which the cookies can be set.

Main results:

- Theorem `issue_run` and theorem `of_issue_run`: a token is issued if its cookie can be set.
- Theorem `clearCookies_run_of_settable`: cookies that can be set can be cleared.
-/

namespace Gatehouse.Token

open Http (Cookie Headers IsFieldText)

variable {c : Config} {headers headers' : Headers} {issued : IssuedToken} {withCookie : Bool}

/-! ## Cookies that can be set -/

/-- The cookies of access tokens can be set. -/
def AccessSettable (c : Config) : Prop :=
  IsFieldText c.accessCookie ∧ ∀ d, c.cookieDomain = some d → IsFieldText d

/-- The cookies of refresh tokens can be set. -/
def RefreshSettable (c : Config) : Prop :=
  IsFieldText c.refreshCookie ∧ IsFieldText c.refreshPath ∧
    ∀ d, c.cookieDomain = some d → IsFieldText d

/-- The cookies of access tokens can be set or none of them can. -/
theorem header?_accessCookie {claims : Claims} {token : String}
    (signed : sign c.algorithm c.key claims = .ok token) (ttl : Nat) :
    (AccessSettable c ∧ ∃ value, (accessCookie c token ttl).header? = some value) ∨
      (¬AccessSettable c ∧ (accessCookie c token ttl).header? = none) := by
  by_cases settable : AccessSettable c
  · have everywhere : IsFieldText "/" := by decide
    exact .inl ⟨settable, _, Cookie.header?_of_isFieldText settable.1
      (isPairText_of_sign signed).1.isPlain.isFieldText everywhere settable.2⟩
  · exact .inr ⟨settable, Cookie.header?_eq_none fun parts => settable ⟨parts.1, parts.2.2⟩⟩

/-- The cookies of refresh tokens can be set or none of them can. -/
theorem header?_refreshCookie {claims : Claims} {token : String}
    (signed : sign c.algorithm c.key claims = .ok token) (ttl : Nat) :
    (RefreshSettable c ∧ ∃ value, (refreshCookie c token ttl).header? = some value) ∨
      (¬RefreshSettable c ∧ (refreshCookie c token ttl).header? = none) := by
  by_cases settable : RefreshSettable c
  · exact .inl ⟨settable, _, Cookie.header?_of_isFieldText settable.1
      (isPairText_of_sign signed).1.isPlain.isFieldText settable.2.1 settable.2.2⟩
  · exact .inr ⟨settable, Cookie.header?_eq_none settable⟩

/-- A token that is signed is issued, unless it has a cookie that cannot be set. -/
theorem issue_run {claims : Claims} {token : String}
    (signed : sign c.algorithm c.key claims = .ok token) (f : String → Cookie)
    (withCookie : Bool) (headers : Headers) :
    (do
      let issued ← issue c claims
      if withCookie then setCookie (f issued.token)
      return issued : Issuing IssuedToken).run headers =
      if withCookie then
        match (f token).header? with
        | some value =>
          (.ok ⟨token, claims.id, claims.expiresAt⟩, headers.append "set-cookie" value)
        | none => (.error .cookie, headers)
      else (.ok ⟨token, claims.id, claims.expiresAt⟩, headers) := by
  have issued : (issue c claims).run headers =
      (.ok ⟨token, claims.id, claims.expiresAt⟩, headers) := by
    rw [issue, signed]
    rfl
  rw [Issuing.run_bind_ok issued]
  cases withCookie with
  | false => rfl
  | true =>
      rw [if_pos rfl, setCookie]
      cases (f token).header? <;> rfl

/-- A token that is signed is issued if its cookie can be set. -/
theorem issue_withCookie_run {claims : Claims} {token : String}
    (signed : sign c.algorithm c.key claims = .ok token) (f : String → Cookie)
    (headers : Headers) :
    (do
      let issued ← issue c claims
      if true then setCookie (f issued.token)
      return issued : Issuing IssuedToken).run headers =
      match (f token).header? with
      | some value =>
        (.ok ⟨token, claims.id, claims.expiresAt⟩, headers.append "set-cookie" value)
      | none => (.error .cookie, headers) :=
  (issue_run signed f true headers).trans (if_pos rfl)

/-- A token that is issued was signed and has the expiry of its claims, and its cookie was set if it
shall have one. -/
theorem of_issue_run {claims : Claims} {f : String → Cookie}
    (run : (do
      let issued ← issue c claims
      if withCookie then setCookie (f issued.token)
      return issued : Issuing IssuedToken).run headers = (.ok issued, headers')) :
    sign c.algorithm c.key claims = .ok issued.token ∧ issued.expiresAt = claims.expiresAt ∧
      if withCookie then
        ∃ line, headers' = headers.append "set-cookie" line ∧ (f issued.token).header? = some line
      else headers' = headers := by
  obtain ⟨signed, -⟩ := issue_withCookie_ok (f := f) run
  rw [issue_run signed] at run
  cases withCookie with
  | false =>
      obtain ⟨same, rfl⟩ := Prod.mk.inj run
      exact ⟨signed, congrArg IssuedToken.expiresAt (Except.ok.inj same).symm, rfl⟩
  | true =>
      rw [if_pos rfl] at run
      cases set : (f issued.token).header? with
      | none =>
          rw [set] at run
          cases run
      | some line =>
          rw [set] at run
          obtain ⟨same, rfl⟩ := Prod.mk.inj run
          exact ⟨signed, congrArg IssuedToken.expiresAt (Except.ok.inj same).symm, line, rfl, rfl⟩

/-- Without a secret no token is issued. -/
theorem issue_withCookie_of_noSecret (noSecret : c.key.isEmpty = true) (claims : Claims)
    (f : String → Cookie) (headers : Headers) :
    (do
      let issued ← issue c claims
      if true then setCookie (f issued.token)
      return issued : Issuing IssuedToken).run headers =
      (.error (.token .missingSecret), headers) := by
  have unsigned : (issue c claims).run headers = (.error (.token .missingSecret), headers) := by
    rw [issue, sign, if_pos noSecret]
    rfl
  have unfolded : (do
      let issued ← issue c claims
      if true then setCookie (f issued.token)
      return issued : Issuing IssuedToken).run headers =
      (ExceptT.bindCont (fun issued => do
          if true then setCookie (f issued.token)
          return issued) ((issue c claims).run headers).1) ((issue c claims).run headers).2 := rfl
  rw [unfolded, unsigned]
  rfl

/-- Both cookies can be cleared when they can be set. -/
theorem clearCookies_run_of_settable (access : AccessSettable c) (refresh : RefreshSettable c)
    (headers : Headers) :
    (clearCookies c).run headers = (.ok (), (headers.append "set-cookie"
      (utf8 (Cookie.cleared c.accessCookie (cookieScope c "/")).text)).append "set-cookie"
        (utf8 (Cookie.cleared c.refreshCookie (cookieScope c c.refreshPath)).text)) := by
  have empty : IsFieldText "" := by decide
  have everywhere : IsFieldText "/" := by decide
  have first := setCookie_run (Cookie.header?_of_isFieldText
    (c := .cleared c.accessCookie (cookieScope c "/")) access.1 empty everywhere access.2)
  have second := setCookie_run (Cookie.header?_of_isFieldText
    (c := .cleared c.refreshCookie (cookieScope c c.refreshPath)) refresh.1 empty refresh.2.1
      refresh.2.2)
  exact (Issuing.run_bind_ok (first headers)).trans (second _)

/-- Whoever verifies a token has a secret. -/
theorem secret_of_verify {secret : Bytes} {now : Time} {token : String} {claims : Claims}
    (verified : verify secret now token = .ok claims) : secret.isEmpty = false := by
  cases empty : secret.isEmpty with
  | false => rfl
  | true =>
      rw [verify, if_pos empty] at verified
      cases verified

end Gatehouse.Token
