import Gatehouse.Permission.Tree

/-!
# Resolving permissions

Permissions are expanded through a tree where there is one, and taken as they are where there is
none.  Either way the result ascends and holds each permission once.
-/

namespace Gatehouse.Permission

/-- How requested permissions are expanded. -/
inductive Resolver where
  | tree (tree : Tree)
  | flat
  deriving DecidableEq, Repr, Inhabited

/-- The permissions that the requested ones stand for. -/
def Resolver.resolve : Resolver → List String → List String
  | .tree t, requested => t.resolve requested
  | .flat, requested => sortedSet requested

end Gatehouse.Permission
