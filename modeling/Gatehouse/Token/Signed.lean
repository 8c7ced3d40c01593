import Gatehouse.Digest.Hmac
import Gatehouse.Encoding.Base64
import Gatehouse.Json.Parser
import Gatehouse.Json.Printer
import Gatehouse.Text.Blank
import Gatehouse.Text.Split
import Gatehouse.Token.Claims

/-!
# Signed tokens

A signed token is three parts joined by dots: a header that names the algorithm, the claims, and
the keyed hash of the first two.  Each part is written in Base64 without padding.  Verification
looks at the signature first and at the time window second, so a token is reported as expired only
when it was issued with the secret.

Main definitions: `Algorithm`, `Error`, `sign` and `verify`.
-/

namespace Gatehouse.Token

/-- The keyed hashes that tokens are signed with. -/
inductive Algorithm where
  | hs256
  | hs384
  | hs512
  deriving DecidableEq, Repr

namespace Algorithm

/-- The written name. -/
def name : Algorithm → String
  | .hs256 => "HS256"
  | .hs384 => "HS384"
  | .hs512 => "HS512"

/-- The hash behind the keyed hash. -/
def hash : Algorithm → Hmac.Hash
  | .hs256 => Hmac.sha256
  | .hs384 => Hmac.sha384
  | .hs512 => Hmac.sha512

/-- All algorithms. -/
def all : List Algorithm := [.hs256, .hs384, .hs512]

/-- The algorithm with a name, in any case and with blanks around it. -/
def ofName? (name : String) : Option Algorithm :=
  all.find? fun a => Text.eqIgnoreCase a.name (Text.trim name)

end Algorithm

/-- What is wrong with a token that cannot be read. -/
inductive Malformation where
  /-- Not three parts. -/
  | parts
  /-- A part that is no Base64. -/
  | encoding
  /-- A part that is no document of the expected kind. -/
  | document
  /-- A claim that is needed and cannot be used. -/
  | claim (name : String)
  /-- A fault in other words. -/
  | other (detail : String)
  deriving DecidableEq, Repr

/-- Why a token cannot be signed or is not accepted. -/
inductive Error where
  | unsupportedAlgorithm (name : String)
  | missingSecret
  | expired
  | notYetValid
  | invalidSignature
  | malformed (cause : Malformation)
  | unencodable (detail : String)
  deriving DecidableEq, Repr

/-- The wording of a malformation. -/
def Malformation.message : Malformation → String
  | .parts => "InvalidToken"
  | .encoding => "Base64 error"
  | .document => "JSON error"
  | .claim name => "Missing required claim: " ++ name
  | .other detail => detail

/-- The wording of an error. -/
def Error.message : Error → String
  | .unsupportedAlgorithm name => "unsupported signing algorithm: " ++ name
  | .missingSecret => "missing signing secret"
  | .expired => "token expired"
  | .notYetValid => "token not yet valid"
  | .invalidSignature => "invalid signature"
  | .malformed cause => "malformed token: " ++ cause.message
  | .unencodable detail => "failed to encode token: " ++ detail

/-! ## Signing -/

/-- A text as a part of a token. -/
def encodePart (text : String) : String :=
  Base64.encode Base64.urlSafe (utf8 text)

/-- The header of the tokens signed here. -/
def headerText (a : Algorithm) : String :=
  (Json.Value.object [("typ", .string "JWT"), ("alg", .string a.name)]).render

/-- The signature over the first two parts. -/
def signature (a : Algorithm) (secret : Bytes) (message : String) : String :=
  Base64.encode Base64.urlSafe (Hmac.mac a.hash secret (utf8 message))

/-- The header and the claims, joined. -/
def signedMessage (a : Algorithm) (claims : Claims) : String :=
  encodePart (headerText a) ++ "." ++ encodePart claims.toJson.render

/-- The token with the given claims; an empty secret signs nothing. -/
def sign (a : Algorithm) (secret : Bytes) (claims : Claims) : Except Error String :=
  if secret.isEmpty then .error .missingSecret
  else
    let message := signedMessage a claims
    .ok (message ++ "." ++ signature a secret message)

/-! ## Reading headers -/

open Json (Reader Record)

/-- The algorithms a header may name, with the one it stands for if that is accepted here. -/
def knownAlgorithms : List (String × Option Algorithm) :=
  Algorithm.all.map (fun a => (a.name, some a)) ++
    ["ES256", "ES384", "RS256", "RS384", "RS512", "PS256", "PS384", "PS512", "EdDSA"].map
      fun name => (name, none)

/-- Is the value the named choice or one of them? -/
def isChoice (names : List String) : Reader Unit := fun v =>
  readChoice (names.map (·, ())) v

/-- The texts that a key may be meant for. -/
def readText : Reader Unit := fun v => (Json.readString v).map fun _ => ()

/-- The parameters of a key that depend on its kind. -/
def keyMaterial (member : String → Json.Value) : Bool :=
  let text (name : String) := (Json.readString (member name)).isSome
  let choice (name : String) (names : List String) := (isChoice names (member name)).isSome
  let curves := ["P-256", "P-384", "P-521", "Ed25519"]
  (choice "kty" ["EC"] && choice "crv" curves && text "x" && text "y") ||
    (choice "kty" ["RSA"] && text "n" && text "e") ||
    (choice "kty" ["oct"] && text "k") ||
    (choice "kty" ["OKP"] && choice "crv" curves && text "x")

/-- A public key in a header.  It is checked for its form and not used. -/
def readKey : Reader Unit := fun v =>
  match v with
  | .object members =>
    let member (name : String) : Json.Value := (members.lookup name).getD .null
    let optional (name : String) (read : Reader Unit) : Bool :=
      (Json.readNullable read (member name)).isSome
    let names := ["use", "key_ops", "alg", "kid", "x5u", "x5c", "x5t", "x5t#S256"]
    let once := ((members.map (·.1)).filter names.contains).Nodup
    let texts : Reader Unit := fun v => (Json.readList Json.readString v).map fun _ => ()
    if once && v.isUsable && keyMaterial member &&
        optional "use" readText &&
        optional "key_ops" texts &&
        optional "alg" (isChoice
          (["HS256", "HS384", "HS512", "ES256", "ES384", "RS256", "RS384", "RS512", "PS256",
            "PS384", "PS512", "EdDSA", "RSA1_5", "RSA-OAEP", "RSA-OAEP-256"])) &&
        ["kid", "x5u", "x5t", "x5t#S256"].all (optional · readText) &&
        optional "x5c" texts
    then some () else none
  | _ => none

/-- The algorithm that a header names, if the header is of the expected kind. -/
def headerAlgorithm? : Reader (Option Algorithm) := fun v => do
  let r ← Record.ofValue?
    ["typ", "alg", "cty", "jku", "jwk", "kid", "x5u", "x5c", "x5t", "x5t#S256"] v
  let _ ← r.optional "typ" Json.readString
  let algorithm ← r.required "alg" (readChoice knownAlgorithms)
  let _ ← r.optional "cty" Json.readString
  let _ ← r.optional "jku" Json.readString
  let _ ← r.optional "jwk" readKey
  let _ ← r.optional "kid" Json.readString
  let _ ← r.optional "x5u" Json.readString
  let _ ← r.optional "x5c" (Json.readList Json.readString)
  let _ ← r.optional "x5t" Json.readString
  let _ ← r.optional "x5t#S256" Json.readString
  return algorithm

/-! ## Verification -/

/-- The three parts of a token, cut at its last two dots. -/
def tokenParts? (token : String) : Option (String × String × String) := do
  let (message, signature) ← Text.cutLast? '.' token
  let (header, payload) ← Text.cutLast? '.' message
  return (header, payload, signature)

/-- The document in a part of a token. -/
def readPart (part : String) : Except Error Json.Value :=
  match Base64.decode? Base64.urlSafe part with
  | none => .error (.malformed .encoding)
  | some bytes =>
    match Json.parseBytes? bytes with
    | none => .error (.malformed .document)
    | some v => .ok v

/-- The claims in a part of a token.  They have to be given by name. -/
def readClaims (part : String) : Except Error Claims := do
  let v ← readPart part
  match v, Claims.ofJson? v with
  | .object _, some claims => .ok claims
  | _, _ => .error (.malformed .document)

/-- Is `now` within the window of the claims?  The expiry has to be a time after the epoch; a start
before the epoch counts for nothing. -/
def checkWindow (now : Time) (claims : Claims) : Except Error Unit :=
  if claims.expiresAt < 0 then .error (.malformed (.claim "exp"))
  else if claims.expiresAt < now then .error .expired
  else if 0 ≤ claims.notBefore ∧ now < claims.notBefore then .error .notYetValid
  else .ok ()

/-- The claims of a token that was signed with the secret and is good at `now`. -/
def verify (secret : Bytes) (now : Time) (token : String) : Except Error Claims := do
  if secret.isEmpty then throw .missingSecret
  let some (header, payload, sig) := tokenParts? token | throw (.malformed .parts)
  let some named := headerAlgorithm? (← readPart header) | throw (.malformed .document)
  let some algorithm := named | throw (.unsupportedAlgorithm "InvalidAlgorithm")
  if signature algorithm secret (header ++ "." ++ payload) ≠ sig then throw .invalidSignature
  let claims ← readClaims payload
  checkWindow now claims
  return claims

end Gatehouse.Token
