import Gatehouse.CommandLine.Program
import Gatehouse.Config
import Gatehouse.Json.Value
import Gatehouse.Net.Network

/-!
# What the options ask for

The options that the program runs with, made from what the command line and the environment give.
An option that is set to a blank text counts as one that is not set.

Main definitions: `Options`, `Given.options` and `Options.toJson`.
-/

namespace Gatehouse.CommandLine

open Json (Value orNull)

/-- The options that the program runs with. -/
structure Options where
  port : Nat
  /-- The address of the store. -/
  dsn : String
  /-- The file with the records that a store in memory starts with. -/
  seed : Option String
  maxConnections : Nat
  /-- The settings, without the overrides of lifetimes. -/
  config : Config
  /-- The file with the overrides of lifetimes. -/
  overridesPath : Option String
  /-- The file with the rules for delegated requests. -/
  rulesPath : Option String
  /-- The files that make up the permission tree. -/
  treePaths : List String
  policyUrl : Option String
  trusted : Net.TrustedNetworks
  verbosity : Nat
  logsJson : Bool
  deriving Repr

/-- Why options that can be read cannot be used. -/
inductive OptionsError where
  | missingSecret
  | unknownAlgorithm
  /-- The template of an option has no place for the target. -/
  | noPlaceholder (option template : String)
  | noCleanupInterval
  | invalidNetworks
  deriving DecidableEq, Repr

/-- The wording of an error. -/
def OptionsError.message : OptionsError → String
  | .missingSecret => "missing required argument: --jwt-secret"
  | .unknownAlgorithm => "invalid --signing-algorithm"
  | .noPlaceholder option template =>
    "--" ++ option ++ " must contain a %s placeholder: " ++ template
  | .noCleanupInterval => "--cleanup-interval must be greater than zero"
  | .invalidNetworks => "invalid --trusted-networks"

/-! ## What is given -/

/-- What is given for options. -/
abbrev Given : Type := Table Datum

namespace Given

/-- The text of an option. -/
def text? (g : Given) (name : String) : Option String :=
  match g.find? name with
  | some (.text text) => some text
  | _ => none

/-- The text of an option, unless it is blank. -/
def filled? (g : Given) (name : String) : Option String :=
  (g.text? name).filter (!Text.isBlankText ·)

/-- The number of an option. -/
def number? (g : Given) (name : String) : Option Nat :=
  match g.find? name with
  | some (.number n) => some n
  | _ => none

/-- The texts of an option. -/
def texts (g : Given) (name : String) : List String :=
  match g.find? name with
  | some (.texts texts) => texts
  | _ => []

/-- Is an option switched on? -/
def isOn (g : Given) (name : String) : Bool :=
  g.find? name == some (.truth true)

/-- The algorithm to sign with. -/
def algorithm (g : Given) : Except OptionsError Token.Algorithm :=
  match g.text? "signing-algorithm" with
  | none => .ok .hs512
  | some name =>
    match Token.Algorithm.ofName? name with
    | some algorithm => .ok algorithm
    | none => .error .unknownAlgorithm

/-- The template of an address. -/
def template? (g : Given) (name : String) : Except OptionsError (Option String) :=
  match g.filled? name with
  | none => .ok none
  | some template =>
    if (Text.cutAt? "%s".toList template.toList).isSome then .ok (some template)
    else .error (.noPlaceholder name template)

/-- The settings. -/
def config (g : Given) : Except OptionsError Config := do
  let secret ←
    match g.filled? "jwt-secret" with
    | some secret => .ok secret
    | none => .error .missingSecret
  let base : Config := { secret }
  let algorithm ← g.algorithm
  let loginTemplate ← g.template? "login-url"
  let refreshTemplate ← g.template? "refresh-url"
  let cleanupInterval := (g.number? "cleanup-interval").getD base.cleanupInterval
  if cleanupInterval = 0 then
    throw .noCleanupInterval
  let config : Config := { base with
    algorithm
    audience := (g.filled? "audience").getD base.audience
    issuer := (g.filled? "issuer").getD base.issuer
    baseAccessTtl := (g.number? "access-token-ttl").getD base.baseAccessTtl
    accessCeiling := g.number? "max-access-token-ttl"
    baseRefreshTtl := (g.number? "refresh-token-ttl").getD base.baseRefreshTtl
    accessCookie := (g.filled? "access-cookie-name").getD base.accessCookie
    refreshCookie := (g.filled? "refresh-cookie-name").getD base.refreshCookie
    refreshPath := (g.filled? "refresh-cookie-path").getD base.refreshPath
    cookieDomain := g.filled? "cookie-domain"
    secureCookies := !g.isOn "insecure-cookies"
    loginTemplate
    refreshTemplate
    redirectDomains := ((g.texts "allowed-redirect-domains").map Text.trim).filter (!·.isEmpty)
    loginByEmail := g.isOn "login-by-email"
    cleanupInterval }
  return config.withPublicUrl ((g.filled? "public-url").getD base.publicUrl)

/-- The proxies that are trusted. -/
def trusted (g : Given) : Except OptionsError Net.TrustedNetworks :=
  match Net.TrustedNetworks.ofTexts (g.texts "trusted-networks") with
  | .ok networks => .ok networks
  | .error _ => .error .invalidNetworks

/-- What the options ask for. -/
def options (g : Given) : Except OptionsError Options := do
  let config ← g.config
  let trusted ← g.trusted
  return {
    port := (g.number? "port").getD 8080
    dsn := (g.text? "dsn").getD ""
    seed := g.filled? "seed"
    maxConnections := (g.number? "max-connections").getD 5
    config
    overridesPath := g.filled? "ttl-overrides"
    rulesPath := g.filled? "forward-auth-rules"
    treePaths := (g.texts "permission-tree").filter (!Text.isBlankText ·)
    policyUrl := g.filled? "policy-url"
    trusted
    verbosity := (g.number? "verbose").getD 0
    logsJson := g.isOn "log-json" }

end Given

/-! ## Options as a document -/

namespace Options

/-- The options about cookies and addresses. -/
def cookiesToJson (c : Config) : Value :=
  .object [
    ("public_url", .string c.publicUrl),
    ("access_cookie", .string c.accessCookie),
    ("refresh_cookie", .string c.refreshCookie),
    ("refresh_path", .string c.refreshPath),
    ("cookie_domain", orNull .string c.cookieDomain),
    ("secure", .bool c.secureCookies),
    ("login_url", orNull .string c.loginTemplate),
    ("refresh_url", orNull .string c.refreshTemplate),
    ("allowed_redirect_domains", .strings c.redirectDomains),
    ("login_by_email", .bool c.loginByEmail)]

/-- The options about tokens. -/
def tokensToJson (o : Options) : Value :=
  let nonEmpty (text : String) : Value := if text.isEmpty then .null else .string text
  .object [
    ("secret", .string o.config.secret),
    ("algorithm", .string o.config.algorithm.name),
    ("audience", nonEmpty o.config.audience),
    ("issuer", nonEmpty o.config.issuer),
    ("access_ttl", .int o.config.baseAccessTtl),
    ("max_access_ttl", orNull (fun seconds => .int (Int.ofNat seconds)) o.config.accessCeiling),
    ("refresh_ttl", .int o.config.baseRefreshTtl),
    ("ttl_overrides", orNull .string o.overridesPath)]

/-- The options about delegated requests; of some addresses it is said whether they are those of
trusted proxies. -/
def forwardToJson (o : Options) (addresses : List Net.Address) : Value :=
  .object [
    ("rules", orNull .string o.rulesPath),
    ("permission_tree", .strings o.treePaths),
    ("policy_url", orNull .string o.policyUrl),
    ("cleanup_interval", .int o.config.cleanupInterval),
    ("trusted_empty", .bool o.trusted.networks.isEmpty),
    ("trusted_contains", .array (addresses.map fun a => .bool (o.trusted.contains a)))]

/-- The options as JSON. -/
def toJson (o : Options) (addresses : List Net.Address) : Value :=
  .object [
    ("port", .int o.port),
    ("dsn", .string o.dsn),
    ("seed", orNull .string o.seed),
    ("max_connections", .int o.maxConnections),
    ("verbosity", .int o.verbosity),
    ("log_json", .bool o.logsJson),
    ("jwt", o.tokensToJson),
    ("cookies", cookiesToJson o.config),
    ("forward_auth", o.forwardToJson addresses)]

end Options

end Gatehouse.CommandLine
