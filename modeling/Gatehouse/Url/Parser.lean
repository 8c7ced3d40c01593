import Gatehouse.Text.Blank
import Gatehouse.Url.Host
import Gatehouse.Url.Path
import Gatehouse.Word

/-!
# Addresses

An address is a scheme and what follows it: after two slashes an authority with user, host and
port, then a path, a query and a fragment.  Blanks and control characters around an address, and
tabs and line ends inside it, do not count.

Main definitions: `Url`, `Url.parse?`, `Url.text`, `Url.hostText?` and `Url.origin?`.
-/

namespace Gatehouse

/-- Who is asked, and as whom. -/
structure Url.Authority where
  username : String
  /-- The password, which is not empty. -/
  password : Option String
  host : Option Url.Host
  /-- The port, unless it is the usual one of the scheme. -/
  port : Option Nat
  deriving DecidableEq, Repr

/-- An address. -/
structure Url where
  scheme : String
  /-- What stands between two slashes and the path. -/
  authority : Option Url.Authority
  path : String
  query : Option String
  fragment : Option String
  deriving DecidableEq, Repr

namespace Url

/-- The kind of a scheme. -/
def schemeKind (scheme : String) : SchemeKind :=
  if ["http", "https", "ws", "wss", "ftp"].contains scheme then .web
  else if scheme == "file" then .file
  else .other

/-- The usual port of a scheme. -/
def defaultPort? (scheme : String) : Option Nat :=
  [("http", 80), ("https", 443), ("ws", 80), ("wss", 443), ("ftp", 21)].lookup scheme

/-- The characters that count. -/
def significant (text : String) : List Char :=
  let outer (c : Char) : Bool := c.toNat ≤ 0x20
  let cs := ((text.toList.dropWhile outer).reverse.dropWhile outer).reverse
  cs.filter fun c => c != '\t' && c != '\n' && c != '\r'

/-- The scheme in lower case and what follows its colon. -/
def splitScheme? (cs : List Char) : Option (String × List Char) :=
  match cs with
  | first :: _ =>
    if first.isAlpha then
      let name := cs.takeWhile fun c => c.isAlphanum || c == '+' || c == '-' || c == '.'
      match cs.drop name.length with
      | ':' :: rest => some (String.ofList (name.map Char.toLower), rest)
      | _ => none
    else none
  | [] => none

/-! ## The authority -/

/-- Does the character end the authority? -/
def endsAuthority (kind : SchemeKind) (c : Char) : Bool :=
  c == '/' || c == '?' || c == '#' || (c == '\\' && kind != .other)

/-- The text of the host at the front of an authority: up to a colon outside of brackets. -/
def hostChars (inBrackets : Bool) : List Char → List Char
  | [] => []
  | c :: cs =>
    if c == ':' && !inBrackets then []
    else
      c :: hostChars (if c == '[' then true else if c == ']' then false else inBrackets) cs

/-- The port after its colon. -/
def port? (scheme : String) (digits : List Char) : Option (Option Nat) :=
  if digits.isEmpty then some none
  else
    match Decimal.nat? digits with
    | some n =>
      if n ≥ Word.bound16 then none
      else some (if defaultPort? scheme == some n then none else some n)
    | none => none

/-- The user name and the password in the text before an at sign. -/
def userInfo (cs : List Char) : String × Option String :=
  let (name, password) := (Text.cutChars? ':' cs).getD (cs, [])
  (Part.userInfo.write name,
    if password.isEmpty then none else some (Part.userInfo.write password))

/-- Read the authority of an address: user information, host and port.  What follows it is given
back. -/
def authority? (scheme : String) (kind : SchemeKind) (cs : List Char) :
    Option (Authority × List Char) := do
  let authority := cs.takeWhile fun c => !endsAuthority kind c
  let rest := cs.drop authority.length
  let hostPort := (authority.reverse.takeWhile (· != '@')).reverse
  let hasUser := hostPort.length < authority.length
  let (username, password) := userInfo (authority.take (authority.length - hostPort.length - 1))
  let host := hostChars false hostPort
  let afterHost := hostPort.drop host.length
  let read := if kind == .other then Host.ofOpaqueText? else Host.ofText?
  let parsed ← if host.isEmpty then some none else (read (String.ofList host)).map some
  let portChars :=
    if kind == .other then afterHost.takeWhile (· != '\\') else afterHost
  let port ←
    match portChars with
    | ':' :: digits => if host.isEmpty then none else port? scheme digits
    | _ => some none
  let hasName := !username.isEmpty || password.isSome
  let isBareAt := hasUser && hostPort.length + 1 = authority.length
  if host.isEmpty && (kind != .other || hasName || (isBareAt && !rest.isEmpty)) then none
  else return (⟨username, password, parsed, port⟩, afterHost.drop portChars.length ++ rest)

/-! ## What follows -/

/-- What stands before the query, the query and the fragment. -/
def splitTail (cs : List Char) : List Char × Option (List Char) × Option (List Char) :=
  let front := cs.takeWhile fun c => c != '?' && c != '#'
  match cs.drop front.length with
  | '?' :: rest =>
    match Text.cutChars? '#' rest with
    | some (query, fragment) => (front, some query, some fragment)
    | none => (front, some rest, none)
  | '#' :: fragment => (front, none, some fragment)
  | _ => (front, none, none)

/-- The address with everything that follows the authority; `path` writes its path. -/
def withTail (scheme : String) (authority : Option Authority) (cs : List Char)
    (path : List Char → String) : Url :=
  let (front, query, fragment) := splitTail cs
  ⟨scheme, authority, path front, query.map (Part.query (schemeKind scheme)).write,
    fragment.map Part.fragment.write⟩

/-- The path after the authority of an address that is not of the web; it may be missing. -/
def optionalPath (cs : List Char) : String :=
  if cs.isEmpty then "" else pathText .other cs

/-- The path of an address without an authority.  It is taken as it is if it does not begin with a
slash. -/
def barePath (cs : List Char) : String :=
  if cs.head? == some '/' then pathText .other cs else Part.opaquePath.write cs

/-- An address of a file.  A drive letter is no host, and a path that begins with one leaves none. -/
def file? (cs : List Char) : Option Url := do
  let isSlash (c : Char) : Bool := c == '/' || c == '\\'
  let bare : Authority := ⟨"", none, none, none⟩
  match cs with
  | a :: b :: rest =>
    if isSlash a && isSlash b then
      let host := rest.takeWhile fun c => !endsAuthority .file c
      let after := rest.drop host.length
      if host.isEmpty then return withTail "file" (some bare) after (pathText .file)
      else if isDrive host then return withTail "file" (some bare) rest (pathText .file)
      else
        let host ← Host.ofText? (String.ofList host)
        let path := pathFromRoot .file (splitTail after).1
        let isLocal := host.text == "localhost" || beginsWithDrive path
        return withTail "file" (some { bare with host := if isLocal then none else some host })
          after (pathText .file)
    else return withTail "file" (some bare) cs (pathText .file)
  | _ => return withTail "file" (some bare) cs (pathText .file)

/-- The address that a text writes. -/
def parse? (text : String) : Option Url := do
  let (scheme, rest) ← splitScheme? (significant text)
  match schemeKind scheme with
  | .web =>
    let (authority, rest) ← authority? scheme .web (rest.dropWhile fun c => c == '/' || c == '\\')
    return withTail scheme (some authority) rest (pathText .web)
  | .file => file? rest
  | .other =>
    match rest with
    | '/' :: '/' :: rest =>
      let (authority, rest) ← authority? scheme .other rest
      return withTail scheme (some authority) rest optionalPath
    | _ => return withTail scheme none rest barePath

/-! ## Writing -/

/-- The port after a colon. -/
def portText : Option Nat → String
  | some port => ":" ++ Decimal.natText port
  | none => ""

/-- The text of an authority with the slashes before it. -/
def Authority.text (a : Authority) : String :=
  let user := a.username ++ (a.password.map (":" ++ ·)).getD ""
  "//" ++ user ++ (if user.isEmpty then "" else "@") ++ (a.host.map Host.text).getD "" ++
    portText a.port

/-- The text of an address.  A path without an authority must not look like one. -/
def text (u : Url) : String :=
  let front := match u.authority with
    | some a => a.text
    | none => if Text.startsWith "//" u.path then "/." else ""
  u.scheme ++ ":" ++ front ++ u.path ++ (u.query.map ("?" ++ ·)).getD "" ++
    (u.fragment.map ("#" ++ ·)).getD ""

/-- The address with its password, if it has one, replaced. -/
def withPassword (u : Url) (password : String) : Url :=
  { u with authority := u.authority.map fun a =>
      { a with password := a.password.map fun _ => Part.userInfo.write password.toList } }

/-- The text of the host, if there is one. -/
def hostText? (u : Url) : Option String :=
  (u.authority.bind (·.host)).map Host.text

/-- Scheme, host and port, by which browsers tell sites apart. -/
def origin? (u : Url) : Option String :=
  u.hostText?.map fun host =>
    u.scheme ++ "://" ++ host ++ portText (u.authority.bind (·.port))

end Url

end Gatehouse
