import Gatehouse.Json.Record
import Gatehouse.Store.Model
import Gatehouse.Text.Split
import Gatehouse.Token.Signed
import Gatehouse.Word

/-!
# Configuration

The settings of the service.  They are fixed when it starts.

Main definitions:

- `Config` with its defaults.
- `Config.audienceText` and `Config.issuerText` fall back to the host of the public address.
- `Config.accessTtl` and `Config.refreshTtl` give the lifetimes for a user after all overrides,
  `Config.longestRefreshTtl` the longest one that any user can get.
-/

namespace Gatehouse

open Store (Role)

/-- Lifetimes for some users or roles.  Of several overrides that apply, the last one counts. -/
structure TtlOverride where
  userIds : List String
  roleIds : List String
  accessTtl : Option Nat
  refreshTtl : Option Nat
  deriving DecidableEq, Repr

/-- The settings.  Lifetimes are whole seconds. -/
structure Config where
  secret : String
  algorithm : Token.Algorithm := .hs512
  audience : String := ""
  issuer : String := ""
  baseAccessTtl : Nat := 3600
  /-- The longest access token that a caller can ask for. -/
  accessCeiling : Option Nat := none
  baseRefreshTtl : Nat := 2592000
  accessCookie : String := "portcullis_access"
  refreshCookie : String := "portcullis_refresh"
  refreshPath : String := "/v1/auth/refresh"
  cookieDomain : Option String := none
  secureCookies : Bool := true
  publicUrl : String := "http://localhost:8080"
  loginTemplate : Option String := none
  refreshTemplate : Option String := none
  ttlOverrides : List TtlOverride := []
  redirectDomains : List String := []
  loginByEmail : Bool := false
  cleanupInterval : Nat := 3600
  deriving DecidableEq, Repr

/-- Seconds between the password step and the second factor. -/
def pendingTtl : Nat := 300

namespace Config

/-- Set the domain of the cookies; an empty one is none. -/
def withCookieDomain (c : Config) (domain : Option String) : Config :=
  { c with cookieDomain := domain.filter (!·.isEmpty) }

/-- Set the public address, without slashes at its end. -/
def withPublicUrl (c : Config) (url : String) : Config :=
  { c with publicUrl := String.ofList ((url.toList.reverse.dropWhile (· == '/')).reverse) }

/-- The host of the public address: what follows `://`, up to a slash or a colon. -/
def publicHost (c : Config) : String :=
  let chars := c.publicUrl.toList
  let rest :=
    match Text.cutAt? "://".toList chars with
    | some (_, rest) => rest
    | none => chars
  String.ofList (rest.takeWhile fun ch => ch != '/' && ch != ':')

/-- Who tokens are for. -/
def audienceText (c : Config) : String :=
  if c.audience.isEmpty then c.publicHost else c.audience

/-- Who issues tokens. -/
def issuerText (c : Config) : String :=
  if c.issuer.isEmpty then c.publicHost else c.issuer

/-- The key that tokens are signed with. -/
def key (c : Config) : Bytes :=
  utf8 c.secret

/-- The template of the login page's address; `%s` stands for the target to return to. -/
def loginUrl (c : Config) : String :=
  c.loginTemplate.getD (c.publicUrl ++ "/login?redirect=%s")

/-- The template of the refresh page's address. -/
def refreshUrl (c : Config) : String :=
  c.refreshTemplate.getD (c.publicUrl ++ "/refresh?redirect=%s")

end Config

/-- Does the override apply to the user, or to one of the roles? -/
def TtlOverride.appliesTo (o : TtlOverride) (userId : String) (roles : List Role) : Bool :=
  o.userIds.contains userId || roles.any fun role => o.roleIds.contains role.id

/-- The last positive lifetime among the overrides that apply. -/
def overriddenTtl (pick : TtlOverride → Option Nat) (overrides : List TtlOverride)
    (userId : String) (roles : List Role) : Option Nat :=
  ((overrides.filter (·.appliesTo userId roles)).filterMap fun o =>
    (pick o).filter (· > 0)).getLast?

namespace Config

/-- The lifetime of an access token for which none was asked. -/
def accessTtl (c : Config) (userId : String) (roles : List Role) : Nat :=
  (overriddenTtl (·.accessTtl) c.ttlOverrides userId roles).getD c.baseAccessTtl

/-- The lifetime of a refresh token. -/
def refreshTtl (c : Config) (userId : String) (roles : List Role) : Nat :=
  (overriddenTtl (·.refreshTtl) c.ttlOverrides userId roles).getD c.baseRefreshTtl

/-- The longest lifetime of a refresh token that any user can get. -/
def longestRefreshTtl (c : Config) : Nat :=
  (c.ttlOverrides.filterMap (·.refreshTtl)).foldl max c.baseRefreshTtl

/-- The lifetime of an access token.  Zero asks for the default; any other request is cut at the
ceiling, and at the default where there is no ceiling. -/
def grantedTtl (c : Config) (userId : String) (roles : List Role) (requested : Nat) : Nat :=
  let default := c.accessTtl userId roles
  if requested = 0 then default else min requested (c.accessCeiling.getD default)

end Config

/-! ## Reading overrides -/

/-- A lifetime of whole seconds. -/
def readSeconds : Json.Reader Nat :=
  Json.readNatBelow Word.bound64

/-- The override in a value. -/
def TtlOverride.ofJson? : Json.Reader TtlOverride := fun v => do
  let r ← Json.Record.ofValue?
    ["user_ids", "role_ids", "access_token_ttl_seconds", "refresh_token_ttl_seconds"] v
  let users ← r.orElse "user_ids" [] (Json.readList Json.readString)
  let roles ← r.orElse "role_ids" [] (Json.readList Json.readString)
  let access ← r.orElse "access_token_ttl_seconds" none (Json.readNullable readSeconds)
  let refresh ← r.orElse "refresh_token_ttl_seconds" none (Json.readNullable readSeconds)
  return ⟨users, roles, access, refresh⟩

end Gatehouse
