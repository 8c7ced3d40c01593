import Gatehouse.Json.Record
import Gatehouse.Text.Split

/-!
# Permission trees

Permissions are named by paths such as `idm:users:write`.  A tree holds the known paths; asking for
an inner node stands for asking for all leaves below it.

Main definitions:

- `Tree` with `child?`, `update`, `insert`, `merge` and `find?`.
- `Tree.resolve` expands requested permissions.
- `Tree.ofJson?` reads nested objects, lists of paths and `null`.
-/

namespace Gatehouse.Permission

/-- A node, given by its children in the order of their names.  The empty node is a leaf. -/
inductive Tree where
  | leaf
  /-- A child `name`, what is below it, and the children after it. -/
  | child (name : String) (below : Tree) (others : Tree)
  deriving DecidableEq, Repr, Inhabited

namespace Tree

/-- Has the node no children? -/
def isLeaf : Tree → Bool
  | .leaf => true
  | .child .. => false

/-- The child with a name. -/
def child? (name : String) : Tree → Option Tree
  | .leaf => none
  | .child n below others => if name = n then some below else others.child? name

/-- Change what is below the child with a name; the child is made if there is none. -/
def update (name : String) (change : Tree → Tree) : Tree → Tree
  | .leaf => .child name (change .leaf) .leaf
  | .child n below others =>
    if name = n then .child n (change below) others
    else if name < n then .child name (change .leaf) (.child n below others)
    else .child n below (others.update name change)

/-- Add the nodes on a path. -/
def insertPath : List String → Tree → Tree
  | [], t => t
  | name :: path, t => t.update name (insertPath path)

/-- The names on a path, empty ones included. -/
def pathNames (path : String) : List String :=
  Text.splitOn ':' path

/-- Add the nodes on a path such as `idm:users:write`; empty names on it do not count. -/
def insert (path : String) (t : Tree) : Tree :=
  insertPath ((pathNames path).filter (!·.isEmpty)) t

/-- Add all nodes of another tree. -/
def merge (t : Tree) : Tree → Tree
  | .leaf => t
  | .child name below others => (t.update name (fun mine => mine.merge below)).merge others

/-- The node at a path. -/
def findPath? : List String → Tree → Option Tree
  | [], t => some t
  | name :: path, t => (t.child? name).bind (findPath? path)

/-- The node at a path; the empty path names none. -/
def find? (path : String) (t : Tree) : Option Tree :=
  if path.isEmpty then none else findPath? (pathNames path) t

/-- The paths of the leaves below a node that has the path `base`. -/
def leavesBelow (base : String) : Tree → List String
  | .leaf => []
  | .child name below others =>
    (match below with
      | .leaf => [base ++ ":" ++ name]
      | .child .. => leavesBelow (base ++ ":" ++ name) below) ++ leavesBelow base others

/-- What a requested permission stands for: the leaves below an inner node, else itself. -/
def expand (t : Tree) (id : String) : List String :=
  match t.find? id with
  | some (.child name below others) => leavesBelow id (.child name below others)
  | _ => [id]

end Tree

/-- Put a text in its place in an ascending list, unless it is there. -/
def insertSorted (s : String) : List String → List String
  | [] => [s]
  | x :: xs => if s < x then s :: x :: xs else if s = x then x :: xs else x :: insertSorted s xs

/-- The ascending list of some texts without repetition. -/
def sortedSet (ids : List String) : List String :=
  ids.foldr insertSorted []

/-- The permissions that the requested ones stand for, ascending. -/
def Tree.resolve (t : Tree) (requested : List String) : List String :=
  sortedSet (requested.flatMap t.expand)

/-! ## Reading -/

open Json (Value)

/-- The paths in a list of texts. -/
def pathList : List Value → Option (List String) :=
  fun items => items.mapM Json.readString

mutual
/-- The tree that a value describes. -/
def Tree.ofJson? : Value → Option Tree
  | .null => some .leaf
  | .array items => (pathList items).map fun paths => paths.foldl (fun t p => t.insert p) .leaf
  | .object members => Tree.ofMembers? members .leaf
  | _ => none

/-- Add the children that the members of an object describe; of two with one name the later one
counts. -/
def Tree.ofMembers? : List (String × Value) → Tree → Option Tree
  | [], t => some t
  | (name, v) :: rest, t =>
    match Tree.ofJson? v with
    | some below => Tree.ofMembers? rest (t.update name fun _ => below)
    | none => none
end

end Gatehouse.Permission
