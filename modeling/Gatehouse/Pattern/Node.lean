import Gatehouse.Unicode.Category

/-!
# Patterns

A pattern describes texts.  It is built from sets of characters and from conditions on the
characters around a place.  A text matches when the pattern describes some part of it.

Matching goes over the text once and keeps what is left to be matched of every attempt so far: the
derivatives of the pattern by the characters read.

Main definitions: `Node`, `Node.holdsAt`, `Node.after` and `Node.matchesIn`.
-/

namespace Gatehouse.Pattern

open Unicode (Ranges)

/-- A condition on a place between two characters. -/
inductive Look where
  | start
  | finish
  | lineStart
  | lineFinish
  | lineStartCrlf
  | lineFinishCrlf
  | wordBoundary (unicode : Bool)
  | noWordBoundary (unicode : Bool)
  | wordStart (unicode : Bool)
  | wordFinish (unicode : Bool)
  | wordStartHalf (unicode : Bool)
  | wordFinishHalf (unicode : Bool)
  deriving DecidableEq, Repr

/-- A pattern. -/
inductive Node where
  | empty
  | chars (set : Ranges)
  | look (condition : Look)
  | concat (first second : Node)
  | alternate (first second : Node)
  /-- At least `least` times, and at most `most` times if that is given. -/
  | repeated (body : Node) (least : Nat) (most : Option Nat)
  deriving DecidableEq, Repr, Inhabited

/-- The characters before and after a place. -/
structure Place where
  before : Option Char
  after : Option Char

/-- Do words contain the character? -/
def isWordChar (unicode : Bool) (c : Char) : Bool :=
  if unicode then
    if c.toNat < 128 then c.isAlphanum || c == '_' else Unicode.wordChars.contains c.toNat
  else c.isAlphanum || c == '_'

/-- Does the condition hold at a place? -/
def Look.holdsAt (p : Place) (l : Look) : Bool :=
  let word (unicode : Bool) (c : Option Char) : Bool := c.any (isWordChar unicode)
  match l with
  | .start => p.before.isNone
  | .finish => p.after.isNone
  | .lineStart => p.before.all (· == '\n')
  | .lineFinish => p.after.all (· == '\n')
  | .lineStartCrlf =>
    p.before.all fun c => c == '\n' || (c == '\r' && p.after != some '\n')
  | .lineFinishCrlf =>
    p.after.all fun c => c == '\r' || (c == '\n' && p.before != some '\r')
  | .wordBoundary u => word u p.before != word u p.after
  | .noWordBoundary u => word u p.before == word u p.after
  | .wordStart u => !word u p.before && word u p.after
  | .wordFinish u => word u p.before && !word u p.after
  | .wordStartHalf u => !word u p.before
  | .wordFinishHalf u => !word u p.after

namespace Node

/-- Does the pattern describe the empty text at a place? -/
def holdsAt (p : Place) : Node → Bool
  | .empty => true
  | .chars _ => false
  | .look l => l.holdsAt p
  | .concat a b => a.holdsAt p && b.holdsAt p
  | .alternate a b => a.holdsAt p || b.holdsAt p
  | .repeated body least _ => least == 0 || body.holdsAt p

/-- One pattern after another; nothing in front is left out. -/
def followedBy (a b : Node) : Node :=
  match a with
  | .empty => b
  | a => .concat a b

/-- What may be left of the pattern after the character `c` at a place. -/
def after (p : Place) (c : Char) : Node → List Node
  | .empty => []
  | .chars set => if set.contains c.toNat then [.empty] else []
  | .look _ => []
  | .concat a b =>
    (a.after p c).map (·.followedBy b) ++ if a.holdsAt p then b.after p c else []
  | .alternate a b => a.after p c ++ b.after p c
  | .repeated body least most =>
    if most = some 0 then []
    else
      let firsts := body.after p c
      let skipped := if body.holdsAt p then List.range (max least 1) else [0]
      skipped.flatMap fun k =>
        match most with
        | some n =>
          if k < n then
            firsts.map (·.followedBy (.repeated body (least - 1 - k) (some (n - 1 - k))))
          else []
        | none => firsts.map (·.followedBy (.repeated body (least - 1 - k) none))

/-- Go over the text after the character `before`, with what is left of earlier attempts. -/
def scan (pattern : Node) (before : Option Char) (left : List Node) : List Char → Bool
  | [] => (pattern :: left).any (·.holdsAt ⟨before, none⟩)
  | c :: rest =>
    let p : Place := ⟨before, some c⟩
    let all := pattern :: left
    all.any (·.holdsAt p) ||
      scan pattern (some c) ((all.flatMap (·.after p c)).eraseDups) rest

/-- Does the pattern describe some part of the text? -/
def matchesIn (pattern : Node) (text : String) : Bool :=
  scan pattern none [] text.toList

end Node

end Gatehouse.Pattern
