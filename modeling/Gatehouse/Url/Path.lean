import Gatehouse.Encoding.Percent
import Gatehouse.Text.Split

/-!
# Paths of addresses

What follows the host is written in a normal form: characters that may not stand there are escaped,
and the segments `.` and `..` are carried out.

Main definitions: `SchemeKind`, `Part.escaped`, `addSegment`, `pathFromRoot` and `pathText`.
-/

namespace Gatehouse.Url

/-- The kinds of schemes, which differ in how the host is read. -/
inductive SchemeKind where
  | web
  | file
  | other
  deriving DecidableEq, Repr

/-- The parts of an address that have their own rules for what is escaped. -/
inductive Part where
  | opaquePath
  | path
  | query (kind : SchemeKind)
  | fragment
  | userInfo
  deriving DecidableEq, Repr

/-- The characters that are escaped in a part, besides control characters and those beyond
ASCII. -/
def Part.escaped : Part → List Char
  | .opaquePath => []
  | .fragment => " \"<>\x60".toList
  | .path => " \"<>\x60#?\x7b\x7d".toList
  | .query .other => " \"#<>".toList
  | .query _ => " \"#<>'".toList
  | .userInfo => " \"<>\x60#?\x7b\x7d/:;=@[\\]^|".toList

/-- The written form of a part. -/
def Part.write (p : Part) (cs : List Char) : String :=
  String.ofList (Percent.encode p.escaped.contains cs)

/-- Is the text a drive letter? -/
def isDrive (cs : List Char) : Bool :=
  match cs with
  | [letter, mark] => letter.isAlpha && (mark == ':' || mark == '|')
  | _ => false

/-- A segment with the escapes of dots replaced. -/
def plainDots : List Char → List Char
  | '%' :: '2' :: 'e' :: rest => '.' :: plainDots rest
  | '%' :: '2' :: 'E' :: rest => '.' :: plainDots rest
  | c :: rest => c :: plainDots rest
  | [] => []

/-- The path above one that ends in a slash.  There is none above the root or a drive letter. -/
def parentPath (path : List Char) : List Char :=
  let inner := path.dropLast
  let last := (inner.reverse.takeWhile (· != '/')).reverse
  if !inner.contains '/' || isDrive last then path
  else inner.take (inner.length - last.length)

/-- Add a segment to a path that ends in a slash; `last` says whether it is the last one. -/
def addSegment (kind : SchemeKind) (path segment : List Char) (last : Bool) : List Char :=
  let written := Percent.encode Part.path.escaped.contains segment
  let tail := if last then [] else ['/']
  if plainDots written == ['.'] then path
  else if plainDots written == ['.', '.'] then parentPath path
  else if kind == .file && path == ['/'] && isDrive written then
    path ++ written.take 1 ++ [':'] ++ tail
  else path ++ written ++ tail

/-- Add segments to a path that ends in a slash. -/
def addSegments (kind : SchemeKind) (path : List Char) : List (List Char) → List Char
  | [] => path
  | [segment] => addSegment kind path segment true
  | segment :: rest => addSegments kind (addSegment kind path segment false) rest

/-- The path that the segments of a text lead to from the root.  The first slash may be missing.
Except in addresses of other kinds a backslash is as good as a slash. -/
def pathFromRoot (kind : SchemeKind) (cs : List Char) : List Char :=
  let cs := if kind == .other then cs else cs.map fun c => if c == '\\' then '/' else c
  addSegments kind ['/'] (Text.splitChars '/' (if cs.head? == some '/' then cs.tail else cs))

/-- Does a path from the root begin with a drive letter?  A second slash at its front hides it. -/
def beginsWithDrive (path : List Char) : Bool :=
  isDrive ((path.drop 1).takeWhile (· != '/'))

/-- The written form of a path. -/
def pathText (kind : SchemeKind) (cs : List Char) : String :=
  let path := pathFromRoot kind cs
  String.ofList (if kind == .file then '/' :: path.dropWhile (· == '/') else path)

end Gatehouse.Url
