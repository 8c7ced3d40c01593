import Gatehouse.Config
import Gatehouse.Json.Lookup
import Gatehouse.Json.Parser

/-!
# The configuration as a document

Settings can be given as a JSON object; what is not given keeps its default.  The document of a
configuration shows the settings as they are in effect, with all fallbacks applied.

Main definitions: `Config.ofDocument` and `Config.toDocument`.
-/

namespace Gatehouse

open Json (Value)

/-- Why a document gives no configuration. -/
inductive SettingsError where
  | unknownAlgorithm (name : String)
  | unreadableOverrides
  deriving DecidableEq, Repr

/-- A text that can be set, be set to nothing by `null`, or be left as it is. -/
def Config.clearableText (v : Value) (name : String) (current : Option String) : Option String :=
  match v.member? name with
  | some (.string text) => some text
  | some .null => none
  | _ => current

/-- The overrides in a document, which may be given as the text of one. -/
def Config.readOverrides (v : Value) : Except SettingsError (List TtlOverride) :=
  let document : Option Value := match v.part "ttl_overrides" with
    | .null => some (.array [])
    | .string text => Json.parse? text
    | other => some other
  match document.bind (Json.readList TtlOverride.ofJson?) with
  | some overrides => .ok overrides
  | none => .error .unreadableOverrides

/-- The algorithm in a document. -/
def Config.readAlgorithm (v : Value) : Except SettingsError Token.Algorithm :=
  match v.textAt? "algorithm" with
  | none => .ok .hs512
  | some name =>
    match Token.Algorithm.ofName? name with
    | some algorithm => .ok algorithm
    | none => .error (.unknownAlgorithm name)

/-- The configuration that a document gives. -/
def Config.ofDocument (v : Value) : Except SettingsError Config := do
  let base : Config := { secret := v.textAt "secret" }
  let algorithm ← readAlgorithm v
  let ttlOverrides ← readOverrides v
  let text (name default : String) : String := (v.textAt? name).getD default
  let config : Config := { base with
    algorithm
    ttlOverrides
    audience := text "audience" base.audience
    issuer := text "issuer" base.issuer
    baseAccessTtl := (v.natAt? "access_ttl").getD base.baseAccessTtl
    accessCeiling := v.natAt? "max_access_ttl"
    baseRefreshTtl := (v.natAt? "refresh_ttl").getD base.baseRefreshTtl
    accessCookie := text "access_cookie" base.accessCookie
    refreshCookie := text "refresh_cookie" base.refreshCookie
    refreshPath := text "refresh_path" base.refreshPath
    secureCookies := (v.boolAt? "secure").getD base.secureCookies
    loginTemplate := clearableText v "login_url" none
    refreshTemplate := clearableText v "refresh_url" none
    redirectDomains := v.textsAt "allowed_redirect_domains"
    loginByEmail := v.flagAt "login_by_email"
    cleanupInterval := (v.natAt? "cleanup_interval").getD base.cleanupInterval }
  return (config.withCookieDomain (clearableText v "cookie_domain" none)).withPublicUrl
    (text "public_url" base.publicUrl)

/-- The settings in effect. -/
def Config.toDocument (c : Config) : Value :=
  .object [
    ("secret", .string c.secret),
    ("algorithm", .string c.algorithm.name),
    ("audience", .string c.audienceText),
    ("issuer", .string c.issuerText),
    ("max_access_ttl", Json.orNull (fun seconds => .int (Int.ofNat seconds)) c.accessCeiling),
    ("max_refresh_ttl", .int c.longestRefreshTtl),
    ("access_cookie", .string c.accessCookie),
    ("refresh_cookie", .string c.refreshCookie),
    ("refresh_path", .string c.refreshPath),
    ("cookie_domain", Json.orNull .string c.cookieDomain),
    ("secure", .bool c.secureCookies),
    ("public_url", .string c.publicUrl),
    ("login_url", .string c.loginUrl),
    ("refresh_url", .string c.refreshUrl),
    ("allowed_redirect_domains", .strings c.redirectDomains),
    ("login_by_email", .bool c.loginByEmail),
    ("cleanup_interval", .int c.cleanupInterval)]

end Gatehouse
