import Gatehouse.CommandLine.Parser
import Gatehouse.Identification
import Gatehouse.Word

/-!
# The options of the program

Each option can also be set by a variable of the environment.  Its name is the long name of the
option in upper case, with underscores for the dashes, after the name of the program.

Main definitions: `program` and `helpText`.
-/

namespace Gatehouse.CommandLine

/-- The variable of the environment for an option. -/
def environmentName (name : String) : String :=
  Text.upperAscii identification.name ++ "_" ++
    String.ofList ((Text.upperAscii name).toList.map fun c => if c == '-' then '_' else c)

/-- An option with a value of some kind. -/
def valued (name : String) (kind : Kind) (default : Option String) (help : String) : Spec :=
  ⟨name, none, some (environmentName name), kind, default, false, help⟩

/-- An option that is given or not. -/
def switch (name help : String) : Spec :=
  valued name .flag (some "false") help

/-- A lifetime in seconds. -/
def seconds (name : String) (default : Option String) (help : String) : Spec :=
  valued name (.number Word.bound64 false) default help

/-- A question about the program itself. -/
def inquiry (name : String) (short : Char) (kind : Kind) (help : String) : Spec :=
  ⟨name, some short, none, kind, none, false, help⟩

/-- The names of the levels of logging. -/
def levelNames : List String := ["error", "warn", "info", "debug", "trace"]

/-- Where requests are taken and where records are kept. -/
def serverOptions : List Spec := [
  { valued "port" (.number Word.bound16 true) (some "8080") "Port to listen on" with
    short := some 'p' },
  { valued "dsn" .text none "Datastore connection string" with
    short := some 'd', isRequired := true },
  valued "seed" .text none
    "JSON file with users and roles loaded into the memory datastore",
  valued "max-connections" (.number Word.bound32 true) (some "5")
    "Maximum number of database connections"]

/-- How tokens are signed and how long they last. -/
def tokenOptions : List Spec := [
  valued "jwt-secret" .text none "HMAC secret used to sign and verify tokens",
  valued "signing-algorithm" .text (some "HS512") "Signing algorithm: HS256, HS384 or HS512",
  valued "audience" .text none "Audience claim (defaults to the public URL host)",
  valued "issuer" .text none "Issuer claim (defaults to the public URL host)",
  seconds "access-token-ttl" (some "3600") "Default access token lifetime in seconds",
  seconds "max-access-token-ttl" none
    "Upper bound for requested access token lifetimes in seconds",
  seconds "refresh-token-ttl" (some "2592000") "Refresh token lifetime in seconds",
  valued "ttl-overrides" .text none
    "JSON file with per-user or per-role token lifetime overrides"]

/-- Cookies and the addresses that users are sent to. -/
def cookieOptions : List Spec := [
  valued "public-url" .text (some "http://localhost:8080")
    "Externally reachable base URL of this service",
  valued "access-cookie-name" .text (some "portcullis_access") "Access token cookie name",
  valued "refresh-cookie-name" .text (some "portcullis_refresh") "Refresh token cookie name",
  valued "refresh-cookie-path" .text (some "/v1/auth/refresh")
    "Path the refresh cookie is scoped to",
  valued "cookie-domain" .text none "Domain attribute for both cookies",
  switch "insecure-cookies"
    "Omit the Secure attribute (local development over plain HTTP)",
  valued "login-url" .text none
    "Login page URL template; %s receives the base64url redirect target",
  valued "refresh-url" .text none
    "Refresh page URL template; %s receives the base64url redirect target",
  valued "allowed-redirect-domains" .list none
    "Comma separated hosts allowed as post-login redirects; a leading '.' allows subdomains",
  switch "login-by-email" "Accept a verified email address in place of the username"]

/-- How delegated requests are decided. -/
def forwardOptions : List Spec := [
  valued "forward-auth-rules" .text none
    "JSON file with forward-auth URL entries and static rules",
  valued "permission-tree" .list none
    "Comma separated JSON files merged into the permission tree",
  valued "policy-url" .text none "Base URL of an OPA-compatible policy engine",
  valued "trusted-networks" .list none
    "Comma separated CIDR networks of proxies allowed to set X-Forwarded-For",
  seconds "cleanup-interval" (some "3600")
    "Seconds between purges of expired revocation records"]

/-- What is logged, and questions about the program. -/
def reportOptions : List Spec := [
  ⟨"verbose", some 'v', some (environmentName "log-level"), .count 5 levelNames, some "0", false,
    "Verbosity level: ERROR, WARN, INFO, DEBUG, TRACE (default: ERROR)"⟩,
  switch "log-json" "Emit logs as JSON lines",
  inquiry "help" 'h' .help "Print help",
  inquiry "version" 'V' .version "Print version"]

/-- The options of the program. -/
def program : List Spec :=
  serverOptions ++ tokenOptions ++ cookieOptions ++ forwardOptions ++ reportOptions

/-- The line about an option. -/
def Spec.helpLine (spec : Spec) : String :=
  let short := match spec.short with
    | some c => "-" ++ c.toString ++ ", "
    | none => "    "
  let default := match spec.default with
    | some text => if spec.kind.takesValue then " [default: " ++ text ++ "]" else ""
    | none => ""
  "  " ++ short ++ "--" ++ spec.name ++ "  " ++ spec.help ++ default

/-- What the program says when it is asked for help. -/
def helpText : String :=
  "Usage: " ++ identification.name ++ " [OPTIONS] --dsn <dsn>\n\nOptions:\n" ++
    Text.joinWith "\n" (program.map Spec.helpLine)

end Gatehouse.CommandLine
