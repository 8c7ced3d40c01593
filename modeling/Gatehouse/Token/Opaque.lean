import Gatehouse.Digest.Sha2
import Gatehouse.Encoding.Base64
import Gatehouse.Encoding.Hex
import Gatehouse.Text.Split

/-!
# API tokens

An API token is an opaque secret.  Its text is shown once, when it is made; only its digest is
stored, and tokens are found again by that digest.
-/

namespace Gatehouse.Token

/-- The lower-case hexadecimal SHA-256 digest of a text. -/
def sha256Hex (text : String) : String :=
  Hex.encode (Sha2.sha256 (utf8 text))

namespace ApiToken

/-- The start by which an API token is told from a signed token. -/
def marker : String := "it."

/-- How many characters of a token are kept for listings. -/
def redactedLength : Nat := 6

/-- The number of random bytes in a token. -/
def secretBytes : Nat := 48

/-- The token made from random bytes. -/
def ofRandom (random : Bytes) : String :=
  marker ++ Base64.encode Base64.urlSafe random

/-- Is the text an API token? -/
def isApiToken (token : String) : Bool :=
  Text.startsWith marker token

/-- The digest under which a token is stored. -/
def digest (token : String) : String :=
  sha256Hex token

/-- The first characters of a token. -/
def redacted (token : String) : String :=
  String.ofList (token.toList.take redactedLength)

end ApiToken

end Gatehouse.Token
