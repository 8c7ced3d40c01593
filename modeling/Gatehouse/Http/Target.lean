import Gatehouse.Text.Split

/-!
# Targets of requests

The addresses that requests can be sent to: after the scheme an authority, then a path, a query and
a fragment.

Main definitions: `isAuthority`, `isPathAndQuery` and `isTarget`.
-/

namespace Gatehouse.Http

/-- What has been seen of an authority. -/
structure AuthorityScan where
  /-- The colons since the last at sign or closing bracket. -/
  colons : Nat
  opened : Bool
  closed : Bool
  /-- Is there a percent sign since the last at sign or closing bracket? -/
  percent : Bool
  deriving DecidableEq, Repr

/-- The characters of an authority that mean nothing in themselves. -/
def isPlainAuthorityChar (c : Char) : Bool :=
  c.isAlphanum || "!$&'()*+,-.;=_~".toList.contains c

/-- Read a character of an authority. -/
def AuthorityScan.step (s : AuthorityScan) (c : Char) : Option AuthorityScan :=
  match c with
  | ':' => if s.colons ≥ 8 then none else some { s with colons := s.colons + 1 }
  | '[' => if s.percent || s.opened then none else some { s with opened := true }
  | ']' =>
    if !s.opened || s.closed then none
    else some { s with closed := true, colons := 0, percent := false }
  | '@' => some { s with colons := 0, percent := false }
  | '%' => some { s with percent := true }
  | _ => if isPlainAuthorityChar c then some s else none

/-- An authority.  There may be escapes in the user information only, and one colon after the
host. -/
def isAuthority (cs : List Char) : Bool :=
  match cs.foldlM AuthorityScan.step ⟨0, false, false, false⟩ with
  | some s =>
    !cs.isEmpty && s.opened == s.closed && s.colons ≤ 1 && !s.percent && cs.getLast? != some '@'
  | none => false

/-- The characters of a path. -/
def isPathChar (c : Char) : Bool :=
  c.toNat > 0x20 && !"#<>?\x60".toList.contains c

/-- The characters of a query. -/
def isQueryChar (c : Char) : Bool :=
  c.toNat > 0x20 && !"\"#<>".toList.contains c

/-- A path with a query and a fragment, in which everything may stand. -/
def isPathAndQuery (cs : List Char) : Bool :=
  let front := cs.takeWhile (· != '#')
  let path := front.takeWhile (· != '?')
  path.all isPathChar && (front.drop (path.length + 1)).all isQueryChar

/-- What follows the scheme of an address that requests can be sent to. -/
def isTarget (cs : List Char) : Bool :=
  let authority := cs.takeWhile fun c => c != '/' && c != '?' && c != '#'
  isAuthority authority && isPathAndQuery (cs.drop authority.length)

end Gatehouse.Http
