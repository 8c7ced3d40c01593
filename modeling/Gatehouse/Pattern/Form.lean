import Gatehouse.Pattern.Node

/-!
# Patterns in short form

A pattern is put in short form while it is read: characters one after the other make up one text,
parts of parts are parts, alternatives that are single characters or sets are one set, and what all
alternatives begin with stands in front of them.

Main definitions:

- `Form` with `Form.ofSet`, `Form.ofParts`, `Form.ofAlternatives` and `Form.ofRepetition`, which
  build patterns in short form.
- `Form.node`: what a pattern in short form describes.
-/

namespace Gatehouse.Pattern

open Unicode (Ranges)

/-- A pattern in short form. -/
inductive Form where
  | empty
  /-- These characters one after the other. -/
  | text (codes : List Nat)
  | chars (set : Ranges)
  | look (condition : Look)
  /-- A group that has a number of its own. -/
  | group (body : Form)
  /-- At least `least` times, and at most `most` times if that is given. -/
  | repeated (body : Form) (least : Nat) (most : Option Nat) (isLazy : Bool)
  | concat (parts : List Form)
  | alternate (options : List Form)

namespace Form

/-! ## What a form describes -/

mutual
/-- The pattern of a form. -/
def node : Form → Node
  | .empty => .empty
  | .text codes => codes.foldr (fun code rest => .concat (.chars ⟨[(code, code)]⟩) rest) .empty
  | .chars set => .chars set
  | .look condition => .look condition
  | .group body => body.node
  | .repeated body least most _ => .repeated body.node least most
  | .concat parts => nodeOfAll parts
  | .alternate options => nodeOfAny options

/-- The pattern of forms one after the other. -/
def nodeOfAll : List Form → Node
  | [] => .empty
  | part :: rest => .concat part.node (nodeOfAll rest)

/-- The pattern of forms of which one has to match. -/
def nodeOfAny : List Form → Node
  | [] => .chars Ranges.empty
  | option :: rest => .alternate option.node (nodeOfAny rest)
end

mutual
/-- The length of the shortest text that a form describes, unless some part of it describes no text
at all. -/
def shortest? : Form → Option Nat
  | .empty => some 0
  | .text codes => some codes.length
  | .chars set => if set.ranges.isEmpty then none else some 1
  | .look _ => some 0
  | .group body => body.shortest?
  | .repeated body least _ _ => body.shortest?.map (· * least)
  | .concat parts => (shortestOfEach? parts).map (·.foldl (· + ·) 0)
  | .alternate options => (shortestOfEach? options).bind List.min?

/-- The lengths of the shortest texts of forms. -/
def shortestOfEach? : List Form → Option (List Nat)
  | [] => some []
  | form :: rest => do return (← form.shortest?) :: (← shortestOfEach? rest)
end

mutual
/-- Does a form describe the empty text only? -/
def isEmptyOnly : Form → Bool
  | .empty => true
  | .text _ => false
  | .chars _ => false
  | .look _ => true
  | .group body => body.isEmptyOnly
  | .repeated body _ most _ => most.isSome && body.isEmptyOnly
  | .concat parts => areEmptyOnly parts
  | .alternate options => areEmptyOnly options

/-- Do all forms describe the empty text only? -/
def areEmptyOnly : List Form → Bool
  | [] => true
  | form :: rest => form.isEmptyOnly && areEmptyOnly rest
end

mutual
/-- Are two forms written alike?  Groups never are, since their numbers differ. -/
def alike : Form → Form → Bool
  | .empty, .empty => true
  | .text a, .text b => a == b
  | .chars a, .chars b => a == b
  | .look a, .look b => a == b
  | .repeated a least most isLazy, .repeated b least' most' isLazy' =>
    a.alike b && least == least' && most == most' && isLazy == isLazy'
  | .concat as, .concat bs => allAlike as bs
  | .alternate as, .alternate bs => allAlike as bs
  | _, _ => false

/-- Are the forms of two lists alike, one by one? -/
def allAlike : List Form → List Form → Bool
  | [], [] => true
  | a :: as, b :: bs => a.alike b && allAlike as bs
  | _, _ => false
end

/-! ## Putting forms together -/

/-- A set of characters; a single character is a text. -/
def ofSet (set : Ranges) : Form :=
  match set.ranges with
  | [(low, high)] => if low = high then .text [low] else .chars set
  | _ => .chars set

/-- The parts of a form. -/
def parts : Form → List Form
  | .concat parts => parts
  | form => [form]

/-- A form in front of others, joined with a text that follows. -/
def before : Form → List Form → List Form
  | .empty, rest => rest
  | .text first, .text second :: rest => .text (first ++ second) :: rest
  | form, rest => form :: rest

/-- Forms one after the other. -/
def ofParts (forms : List Form) : Form :=
  match (forms.flatMap parts).foldr before [] with
  | [] => .empty
  | [form] => form
  | forms => .concat forms

/-- The alternatives of a form. -/
def options : Form → List Form
  | .alternate options => options
  | form => [form]

/-- The code of a form that is a single character. -/
def code? : Form → Option Nat
  | .text [code] => some code
  | _ => none

/-- The set of a form that is one. -/
def set? : Form → Option Ranges
  | .chars set => some set
  | _ => none

/-- The parts of a form that has several. -/
def parts? : Form → Option (List Form)
  | .concat parts => some parts
  | _ => none

/-- What two lists of forms begin with alike. -/
def sharedStart : List Form → List Form → List Form
  | a :: as, b :: bs => if a.alike b then a :: sharedStart as bs else []
  | _, _ => []

/-- Alternatives that begin with nothing alike: one set if all are single characters or all are
sets. -/
def ofDistinct (forms : List Form) : Form :=
  match forms.flatMap options with
  | [form] => form
  | forms =>
    match forms.mapM code?, forms.mapM set? with
    | some codes, _ => ofSet (Ranges.ofList (codes.map fun code => (code, code)))
    | none, some sets => ofSet (Ranges.unionAll sets)
    | none, none => .alternate forms

/-- Alternatives beside each other.  What all begin with stands in front of them. -/
def ofAlternatives (forms : List Form) : Form :=
  match (forms.flatMap options).mapM parts? with
  | some (first :: others) =>
    let start := others.foldl sharedStart first
    if others.isEmpty || start.isEmpty then ofDistinct forms
    else
      let rest := (first :: others).map fun row => ofParts (row.drop start.length)
      ofParts (start ++ [ofDistinct rest])
  | _ => ofDistinct forms

/-- A form again and again.  What is always empty need not be repeated. -/
def ofRepetition (body : Form) (least : Nat) (most : Option Nat) (isLazy : Bool) : Form :=
  let (least, most) :=
    if body.isEmptyOnly then (min least 1, some (min (most.getD 1) 1)) else (least, most)
  if most = some 0 then .empty
  else if least = 1 && most = some 1 then body
  else .repeated body least most isLazy

end Form

end Gatehouse.Pattern
