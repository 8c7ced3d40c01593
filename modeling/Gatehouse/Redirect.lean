import Gatehouse.Encoding.Base64
import Gatehouse.Text.Blank
import Gatehouse.Text.Split
import Gatehouse.Url.Parser

/-!
# Redirect targets

The address that a user wanted is carried through login as Base64 text: it is put into the slot
`%s` of the login page's address and comes back with the login.  A target is followed only when it
is an address of the web whose host is permitted.

Main definitions: `encodeTarget`, `fillTemplate` and `allowedTarget?`.
-/

namespace Gatehouse.Redirect

/-- The target as it is put into an address. -/
def encodeTarget (target : String) : String :=
  Base64.encodePadded Base64.urlSafe (utf8 target)

/-- The template with its first `%s` replaced by the target. -/
def fillTemplate (template target : String) : String :=
  match Text.cutAt? "%s".toList template.toList with
  | some (before, after) =>
    String.ofList before ++ encodeTarget target ++ String.ofList after
  | none => template

/-- The bytes of a target, which may come with or without its padding. -/
def decodeTarget? (text : String) : Option Bytes :=
  (Base64.decodePadded? Base64.urlSafe text).or
    (Base64.decodeChars? Base64.urlSafe (text.toList.reverse.dropWhile (· == '=')).reverse)

/-- Does an entry permit a host?  An entry that begins with a dot permits the hosts that end with
it, any other one just the host it names; blank entries permit nothing. -/
def permits (host entry : String) : Bool :=
  let entry := Text.lowerAscii (Text.trim entry)
  if Text.startsWith "." entry then Text.endsWith entry host
  else !entry.isEmpty && host == entry

/-- The host of a target that is an address of the web. -/
def webHost? (target : String) : Option String := do
  let url ← Url.parse? target
  if url.scheme == "http" || url.scheme == "https" then
    url.hostText?.map Text.lowerAscii
  else none

/-- The requested target, if it may be followed. -/
def allowedTarget? (requested : String) (domains : List String) : Option String := do
  let requested := Text.trim requested
  if requested.isEmpty then none
  else
    let bytes ← decodeTarget? requested
    let target ← text? bytes
    let host ← webHost? target
    if domains.any (permits host) then some target else none

end Gatehouse.Redirect
