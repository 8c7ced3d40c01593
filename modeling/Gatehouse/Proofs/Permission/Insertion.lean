import Gatehouse.Proofs.Permission.Building
import Gatehouse.Proofs.Permission.Expansion

/-!
# Resolving permissions - Looking up what was inserted

Inserting leaves out the empty names on a path, and looking up does not: `idm::users:` inserts the
nodes of `idm:users` and then finds nothing.  A path is found again exactly when it is written as its
names are, with one colon between each two.

Main definitions:

- `Tree.tidy`: the path that the names on a path write.
- `Tree.LeafPath`: the path of a leaf, as it is written.

Main results:

- Theorem `Tree.mem_expand_of_hasNode`: the path of a node is expanded to the leaves at the node and
  below it.
- Theorem `Tree.insert_tidy`: a path and its tidy form insert the same nodes.
- Theorem `Tree.resolve_inserted_iff`: which paths are found again after they were inserted.
-/

namespace Gatehouse.Permission.Tree

open Text (joinWith)

variable {t : Tree} {s p : String} {path further : List String}

/-! ## Names that count -/

/-- The path with one colon between each two of its names. -/
def tidy (p : String) : String :=
  joinWith ":" (properNames p)

theorem mem_properNames {name : String} : name ∈ properNames p ↔ name ∈ pathNames p ∧ name ≠ "" := by
  simp [properNames]

theorem properNames_eq_self (full : "" ∉ pathNames p) : properNames p = pathNames p := by
  refine List.filter_eq_self.2 fun name mem => ?_
  have proper : name ≠ "" := fun empty => full (empty ▸ mem)
  simpa using proper

theorem tidy_eq_self (full : "" ∉ pathNames p) : tidy p = p := by
  rw [tidy, properNames_eq_self full, joinWith_pathNames]

/-- Names without colons are read back from the path that they write. -/
theorem pathNames_joinWith_of_colonFree (onward : path ≠ [])
    (free : ∀ name ∈ path, ':' ∉ name.toList) : pathNames (joinWith ":" path) = path := by
  rw [pathNames_joined onward, flatMap_pathNames_of_colonFree free]

theorem pathNames_tidy (named : properNames p ≠ []) : pathNames (tidy p) = properNames p :=
  pathNames_joinWith_of_colonFree named fun _ mem =>
    Text.notMem_of_mem_splitOn (mem_properNames.1 mem).1

/-- A path and its tidy form insert the same nodes. -/
theorem insert_tidy (named : properNames p ≠ []) (t : Tree) : t.insert (tidy p) = t.insert p := by
  have full : "" ∉ pathNames (tidy p) := by
    rw [pathNames_tidy named]
    exact fun mem => (mem_properNames.1 mem).2 rfl
  have same : properNames (tidy p) = properNames p := by
    rw [properNames_eq_self full, pathNames_tidy named]
  exact congrArg (insertPath · t) same

/-! ## The path of a node -/

/-- The path of a leaf, as it is written. -/
def LeafPath (t : Tree) (s : String) : Prop :=
  ∃ path, t.HasLeaf path ∧ s = joinWith ":" path

/-- From every node on, there is a leaf. -/
theorem exists_hasLeaf_append (ht : t.Ordered) (node : t.HasNode path) :
    ∃ further, t.HasLeaf (path ++ further) := by
  rw [← List.append_nil path, hasNode_append_iff ht] at node
  obtain ⟨u, there, -⟩ := node
  by_cases bare : u = leaf
  · exact ⟨[], (hasLeaf_append_iff ht).2 ⟨u, there, by simp [bare]⟩⟩
  · obtain ⟨name, rest, ends⟩ := exists_hasLeaf (ht.findPath? there) bare
    exact ⟨name :: rest, (hasLeaf_append_iff ht).2 ⟨u, there, ends⟩⟩

/-- In a clean tree the path of a node is expanded to the leaves at the node and below it. -/
theorem mem_expand_of_hasNode (ht : t.Ordered) (clean : t.Clean) (onward : path ≠ [])
    (node : t.HasNode path) :
    s ∈ t.expand (joinWith ":" path) ↔
      ∃ further, t.HasLeaf (path ++ further) ∧ s = joinWith ":" (path ++ further) := by
  have back : pathNames (joinWith ":" path) = path :=
    pathNames_joinWith_of_colonFree onward fun name mem => (clean path node name mem).2
  rw [mem_expand_iff_standsFor ht clean]
  constructor
  · intro stands
    cases stands with
    | leaf _ ends =>
        rw [back] at ends ⊢
        exact ⟨_, ends, rfl⟩
    | itself lost =>
        rw [back] at lost
        obtain ⟨further, ends⟩ := exists_hasLeaf_append ht node
        have here : further = [] := by_contra fun more => lost further more ends
        exact ⟨further, ends, by rw [here, List.append_nil]⟩
  · rintro ⟨further, ends, rfl⟩
    by_cases here : further = []
    · subst here
      rw [List.append_nil] at ends ⊢
      refine .itself fun more onward beyond => ?_
      obtain ⟨name, rest, rfl⟩ := List.exists_cons_of_ne_nil onward
      rw [back, List.append_cons] at beyond
      exact ends.2 ⟨name, hasNode_of_append beyond.1⟩
    · have stands : t.StandsFor (joinWith ":" path)
          (joinWith ":" (pathNames (joinWith ":" path) ++ further)) := .leaf here (by rwa [back])
      rwa [back] at stands

/-! ## Paths with empty names -/

/-- In a clean tree nothing is found at a path with an empty name. -/
theorem expand_of_emptyName (ht : t.Ordered) (clean : t.Clean) (empty : "" ∈ pathNames p) :
    t.expand p = [p] := by
  refine expand_eq_self ht ?_
  rintro ⟨further, leads⟩
  exact (clean _ leads.ends.1 "" (List.mem_append_left _ empty)).1 rfl

/-- In a clean tree a path with an empty name is that of no leaf but the root. -/
theorem not_leafPath_of_emptyName (clean : t.Clean) (inner : t ≠ leaf) (empty : "" ∈ pathNames p) :
    ¬t.LeafPath p := by
  rintro ⟨path, ends, rfl⟩
  have onward : path ≠ [] := by
    rintro rfl
    cases t with
    | leaf => exact inner rfl
    | child name below others => exact not_hasLeaf_nil ends
  rw [pathNames_joinWith_of_colonFree onward fun name mem => (clean path ends.1 name mem).2] at empty
  exact (clean path ends.1 "" empty).1 rfl

/-! ## Inserting and looking up -/

theorem hasNode_properNames_insert (t : Tree) (p : String) : (t.insert p).HasNode (properNames p) :=
  hasNode_insertPath.2 (.inr (hasNode_only.2 (List.prefix_refl _)))

/-- A path that was inserted into a clean tree is found again exactly when it has no empty names; it
then is its own tidy form.  With an empty name it stays as it is, which is no leaf of the tree.  The
tidy form inserts the same nodes and always finds them: it is resolved to the leaves at the node and
below it. -/
theorem resolve_inserted_iff (ht : t.Ordered) (clean : t.Clean)
    (named : ∃ name ∈ pathNames p, name ≠ "") :
    ((∀ s ∈ (t.insert p).resolve [p], (t.insert p).LeafPath s) ↔ "" ∉ pathNames p) ∧
    ("" ∈ pathNames p → (t.insert p).resolve [p] = [p]) ∧
    ("" ∉ pathNames p → tidy p = p) ∧
    t.insert (tidy p) = t.insert p ∧
    ∀ s, s ∈ (t.insert p).resolve [tidy p] ↔
      ∃ further, (t.insert p).HasLeaf (properNames p ++ further) ∧
        s = joinWith ":" (properNames p ++ further) := by
  obtain ⟨name, mem, proper⟩ := named
  have counts : properNames p ≠ [] := List.ne_nil_of_mem (mem_properNames.2 ⟨mem, proper⟩)
  have ordered : (t.insert p).Ordered := ht.insert p
  have clean' : (t.insert p).Clean := clean.insert p
  have node := hasNode_properNames_insert t p
  have inner : t.insert p ≠ leaf := by
    intro bare
    rw [bare, hasNode_leaf] at node
    exact counts node
  have kept (empty : "" ∈ pathNames p) : (t.insert p).resolve [p] = [p] := by
    rw [resolve, List.flatMap_singleton, expand_of_emptyName ordered clean' empty]
    rfl
  have found (s : String) : s ∈ (t.insert p).resolve [tidy p] ↔
      ∃ further, (t.insert p).HasLeaf (properNames p ++ further) ∧
        s = joinWith ":" (properNames p ++ further) := by
    rw [mem_resolve, ← mem_expand_of_hasNode ordered clean' counts node]
    simp [tidy]
  refine ⟨⟨?_, ?_⟩, kept, tidy_eq_self, insert_tidy counts t, found⟩
  · intro leaves empty
    have itself : p ∈ (t.insert p).resolve [p] := by simp [kept empty]
    exact not_leafPath_of_emptyName clean' inner empty (leaves p itself)
  · intro full s mem
    have again : s ∈ (t.insert p).resolve [tidy p] := by rwa [tidy_eq_self full]
    obtain ⟨further, ends, written⟩ := (found s).1 again
    exact ⟨_, ends, written⟩

/-- A path with empty names is inserted into the tree of a house and lost, and its tidy form is found. -/
theorem houseTree_insert_groups :
    houseTree.Ordered ∧ houseTree.Clean ∧ (∃ name ∈ pathNames "idm::groups:", name ≠ "") ∧
    tidy "idm::groups:" = "idm:groups" ∧
    (houseTree.insert "idm::groups:").resolve ["idm::groups:"] = ["idm::groups:"] ∧
    ¬(∀ s ∈ (houseTree.insert "idm::groups:").resolve ["idm::groups:"],
      (houseTree.insert "idm::groups:").LeafPath s) ∧
    (houseTree.insert "idm::groups:").resolve ["idm:groups"] = ["idm:groups"] ∧
    houseTree.insert "idm:groups" = houseTree.insert "idm::groups:" := by
  have assembled : houseTree.Assembled :=
    .merge (.insert (.insert .empty _) _) (.insert .empty _)
  have named : ∃ name ∈ pathNames "idm::groups:", name ≠ "" := ⟨"idm", by decide +kernel, by decide⟩
  have empty : "" ∈ pathNames "idm::groups:" := by decide +kernel
  have tidied : tidy "idm::groups:" = "idm:groups" := by decide +kernel
  obtain ⟨leaves, kept, -, same, -⟩ := resolve_inserted_iff assembled.ordered assembled.clean named
  refine ⟨assembled.ordered, assembled.clean, named, tidied, kept empty, ?_, by decide +kernel, ?_⟩
  · exact fun all => leaves.1 all empty
  · rwa [tidied] at same

end Gatehouse.Permission.Tree
