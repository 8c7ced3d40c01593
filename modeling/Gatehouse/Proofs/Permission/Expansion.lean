import Gatehouse.Proofs.Permission.Resolver
import Gatehouse.Proofs.Permission.Tree
import Gatehouse.Proofs.Text.Split
import Mathlib.Data.List.Nodup

/-!
# Resolving permissions - The leaves that a request stands for

A request names the node at its path.  Where leaves stand further on, the request stands for all of
them; everywhere else it stands for itself, whether it names a leaf, nothing, or something below a
leaf.

Main definitions:

- `Tree.LeadsTo`: the leaves that are found from a request.
- `Tree.Clean` and `Tree.StandsFor`: trees whose paths can be read back, and what a request stands for
  in one of them.
- `Tree.Assembled`: trees that are put together from paths and lists of paths.

Main results:

- Theorem `Tree.mem_expand_iff`: a request is expanded to the leaves that it leads to.
- Theorem `Tree.Assembled.clean`: trees that are put together from paths are clean.
- Theorem `Tree.resolve_of_clean`: what the result of resolving holds.
-/

namespace Gatehouse.Permission.Tree

open Text (joinWith)

variable {t u : Tree} {s id base name : String} {ids more rest path : List String}

/-! ## Paths as texts -/

/-- A path is written with the colons that its names were cut at. -/
theorem joinWith_pathNames (id : String) : joinWith ":" (pathNames id) = id :=
  @Text.joinWith_splitOn ':' id

theorem pathNames_ne_nil (id : String) : pathNames id ≠ [] :=
  Text.splitOn_ne_nil id

theorem joinWith_pathNames_append (onward : rest ≠ []) (id : String) :
    joinWith ":" (pathNames id ++ rest) = id ++ ":" ++ joinWith ":" rest := by
  rw [Text.joinWith_append (pathNames_ne_nil id) onward, joinWith_pathNames]

/-- A path is read back as what its names are read as. -/
theorem pathNames_joined (onward : path ≠ []) :
    pathNames (joinWith ":" path) = path.flatMap pathNames :=
  @Text.splitOn_joinWith ':' path onward

/-- Names without colons are read as they are. -/
theorem flatMap_pathNames_of_colonFree (free : ∀ name ∈ path, ':' ∉ name.toList) :
    path.flatMap pathNames = path := by
  have each : ∀ name ∈ path, pathNames name = [name] := fun name mem =>
    Text.splitOn_of_notMem (free name mem)
  rw [List.flatMap_def, List.map_congr_left each, ← List.flatMap_def, List.flatMap_singleton']

/-! ## Leaves below a node -/

/-- The paths of the leaves at a node or below it. -/
def leavesFrom (path : String) : Tree → List String
  | .leaf => [path]
  | .child name below others => leavesBelow path (.child name below others)

theorem leavesBelow_child {below others : Tree} :
    leavesBelow base (child name below others) =
      leavesFrom (base ++ ":" ++ name) below ++ leavesBelow base others := by
  cases below <;> rfl

theorem mem_leavesFrom {below : Tree}
    (inside : s ∈ leavesBelow (base ++ ":" ++ name) below ↔
      ∃ x path, below.HasLeaf (x :: path) ∧
        s = base ++ ":" ++ name ++ ":" ++ joinWith ":" (x :: path)) :
    s ∈ leavesFrom (base ++ ":" ++ name) below ↔
      ∃ path, below.HasLeaf path ∧ s = base ++ ":" ++ joinWith ":" (name :: path) := by
  have written (x : String) (path : List String) :
      base ++ ":" ++ joinWith ":" (name :: x :: path) =
        base ++ ":" ++ name ++ ":" ++ joinWith ":" (x :: path) := by
    rw [Text.joinWith_cons (List.cons_ne_nil x path)]
    simp only [String.append_assoc]
  cases below with
  | leaf => simp [leavesFrom, joinWith]
  | child name' below' others' =>
      rw [leavesFrom, inside]
      constructor
      · rintro ⟨x, path, ends, rfl⟩
        exact ⟨x :: path, ends, (written x path).symm⟩
      · rintro ⟨path, ends, rfl⟩
        cases path with
        | nil => exact absurd ends not_hasLeaf_nil
        | cons x path => exact ⟨x, path, ends, written x path⟩

/-- The leaves below a node are collected under the path of the node. -/
theorem mem_leavesBelow (ht : t.Ordered) :
    s ∈ leavesBelow base t ↔
      ∃ name path, t.HasLeaf (name :: path) ∧ s = base ++ ":" ++ joinWith ":" (name :: path) := by
  induction t generalizing base with
  | leaf => simp [leavesBelow]
  | child name below others ihb iho =>
      rw [leavesBelow_child, List.mem_append, mem_leavesFrom (ihb ht.2.1), iho ht.2.2]
      simp only [hasLeaf_child ht]
      constructor
      · rintro (⟨path, ends, rfl⟩ | ⟨x, path, ends, rfl⟩)
        · exact ⟨name, path, .inl ⟨rfl, ends⟩, rfl⟩
        · exact ⟨x, path, .inr ends, rfl⟩
      · rintro ⟨x, path, ⟨rfl, ends⟩ | ends, rfl⟩
        · exact .inl ⟨path, ends, rfl⟩
        · exact .inr ⟨x, path, ends, rfl⟩

/-! ## Expanding a request -/

/-- A request leads to a leaf that stands further on than the node that it names. -/
structure LeadsTo (t : Tree) (id : String) (further : List String) : Prop where
  named : id ≠ ""
  onward : further ≠ []
  ends : t.HasLeaf (pathNames id ++ further)

/-- A request leads to leaves exactly when it names a node with children. -/
theorem exists_leadsTo_iff (ht : t.Ordered) :
    (∃ further, t.LeadsTo id further) ↔ ∃ u, t.find? id = some u ∧ u ≠ leaf := by
  by_cases named : id = ""
  · subst named
    constructor
    · rintro ⟨further, leads⟩
      exact absurd rfl leads.named
    · rintro ⟨u, found, -⟩
      cases found
  · have found : t.find? id = findPath? (pathNames id) t := by simp [find?, named]
    rw [found]
    constructor
    · rintro ⟨further, leads⟩
      obtain ⟨u, there, ends⟩ := (hasLeaf_append_iff ht).1 leads.ends
      refine ⟨u, there, ?_⟩
      rintro rfl
      exact leads.onward (hasLeaf_leaf.1 ends)
    · rintro ⟨u, there, inner⟩
      obtain ⟨name, path, ends⟩ := exists_hasLeaf (ht.findPath? there) inner
      exact ⟨name :: path, named, List.cons_ne_nil name path,
        (hasLeaf_append_iff ht).2 ⟨u, there, ends⟩⟩

theorem expand_of_leadsTo {further : List String} (ht : t.Ordered) (leads : t.LeadsTo id further) :
    s ∈ t.expand id ↔
      ∃ further, t.LeadsTo id further ∧ s = joinWith ":" (pathNames id ++ further) := by
  obtain ⟨u, found, inner⟩ := (exists_leadsTo_iff ht).1 ⟨further, leads⟩
  have named : id ≠ "" := leads.named
  have there : findPath? (pathNames id) t = some u := by simpa [find?, named] using found
  have collected : t.expand id = leavesBelow id u := by
    rw [expand, found]
    cases u with
    | leaf => exact absurd rfl inner
    | child name below others => rfl
  rw [collected, mem_leavesBelow (ht.findPath? there)]
  constructor
  · rintro ⟨name, path, ends, rfl⟩
    have onward : name :: path ≠ [] := List.cons_ne_nil name path
    exact ⟨name :: path, ⟨named, onward, (hasLeaf_append_iff ht).2 ⟨u, there, ends⟩⟩,
      (joinWith_pathNames_append onward id).symm⟩
  · rintro ⟨further, leads, rfl⟩
    obtain ⟨u', there', ends⟩ := (hasLeaf_append_iff ht).1 leads.ends
    cases there.symm.trans there'
    cases further with
    | nil => exact absurd rfl leads.onward
    | cons name path => exact ⟨name, path, ends, joinWith_pathNames_append leads.onward id⟩

theorem expand_eq_self (ht : t.Ordered) (lost : ¬∃ further, t.LeadsTo id further) :
    t.expand id = [id] := by
  unfold expand
  split
  · rename_i found
    exact absurd ((exists_leadsTo_iff ht).2 ⟨_, found, nofun⟩) lost
  · rfl

/-- A request is expanded to the leaves that it leads to, or to itself if it leads to none. -/
theorem mem_expand_iff (ht : t.Ordered) :
    s ∈ t.expand id ↔
      (∃ further, t.LeadsTo id further ∧ s = joinWith ":" (pathNames id ++ further)) ∨
        (¬∃ further, t.LeadsTo id further) ∧ s = id := by
  by_cases leads : ∃ further, t.LeadsTo id further
  · obtain ⟨further, led⟩ := leads
    rw [expand_of_leadsTo ht led]
    exact (or_iff_left fun lost => lost.1 ⟨further, led⟩).symm
  · rw [expand_eq_self ht leads, List.mem_singleton]
    constructor
    · exact fun same => .inr ⟨leads, same⟩
    · rintro (⟨further, led, -⟩ | ⟨-, same⟩)
      · exact absurd ⟨further, led⟩ leads
      · exact same

theorem mem_resolve : s ∈ t.resolve ids ↔ ∃ id ∈ ids, s ∈ t.expand id := by
  simp [resolve]

theorem pairwise_resolve (t : Tree) (ids : List String) : (t.resolve ids).Pairwise (· < ·) :=
  pairwise_sortedSet _

/-! ## Clean trees -/

/-- No name in the tree is empty or has a colon in it. -/
def Clean (t : Tree) : Prop :=
  t.AllNames fun name => name ≠ "" ∧ ':' ∉ name.toList

/-- What a request stands for: the leaves whose paths go on from the requested one name by name, or
the request itself where there are none. -/
inductive StandsFor (t : Tree) (id : String) : String → Prop where
  | leaf {further : List String} (onward : further ≠ [])
      (ends : t.HasLeaf (pathNames id ++ further)) :
      StandsFor t id (joinWith ":" (pathNames id ++ further))
  | itself (lost : ∀ further, further ≠ [] → ¬t.HasLeaf (pathNames id ++ further)) :
      StandsFor t id id

/-- In a clean tree no leaf goes on from the empty request. -/
theorem leadsTo_iff_of_clean (clean : t.Clean) :
    t.LeadsTo id rest ↔ rest ≠ [] ∧ t.HasLeaf (pathNames id ++ rest) := by
  constructor
  · intro leads
    exact ⟨leads.onward, leads.ends⟩
  · rintro ⟨onward, ends⟩
    refine ⟨?_, onward, ends⟩
    rintro rfl
    exact (clean _ ends.1 "" (by simp [pathNames, Text.splitOn, Text.splitChars])).1 rfl

theorem mem_expand_iff_standsFor (ht : t.Ordered) (clean : t.Clean) :
    s ∈ t.expand id ↔ t.StandsFor id s := by
  rw [mem_expand_iff ht]
  simp only [leadsTo_iff_of_clean clean]
  constructor
  · rintro (⟨further, ⟨onward, ends⟩, rfl⟩ | ⟨lost, rfl⟩)
    · exact .leaf onward ends
    · exact .itself fun further onward ends => lost ⟨further, onward, ends⟩
  · rintro (⟨onward, ends⟩ | lost)
    · exact .inl ⟨_, ⟨onward, ends⟩, rfl⟩
    · exact .inr ⟨fun ⟨further, onward, ends⟩ => lost further onward ends, rfl⟩

theorem Clean.insert (ht : t.Clean) (path : String) : (t.insert path).Clean := by
  refine ht.insertPath fun name mem => ?_
  obtain ⟨piece, proper⟩ := List.mem_filter.1 mem
  exact ⟨by simpa using proper, Text.notMem_of_mem_splitOn piece⟩

/-- A tree that is put together from paths and lists of paths. -/
inductive Assembled : Tree → Prop where
  | empty : Assembled leaf
  | insert {t : Tree} (before : Assembled t) (path : String) : Assembled (t.insert path)
  | list {items : List Json.Value} {t : Tree} (read : ofJson? (.array items) = some t) : Assembled t
  | merge {t u : Tree} (ht : Assembled t) (hu : Assembled u) : Assembled (t.merge u)

theorem Assembled.ordered (h : t.Assembled) : t.Ordered := by
  induction h with
  | empty => trivial
  | insert _ path ih => exact ih.insert path
  | list read => exact ordered_ofJson? _ read
  | merge _ _ iht _ => exact iht.merge _

/-- Trees that are put together from paths are clean. -/
theorem Assembled.clean (h : t.Assembled) : t.Clean := by
  induction h with
  | empty => exact allNames_leaf
  | insert _ path ih => exact ih.insert path
  | list read =>
      obtain ⟨paths, -, rfl⟩ := Option.map_eq_some_iff.1 read
      exact List.foldlRecOn paths _ allNames_leaf fun t ht path _ => Clean.insert ht path
  | merge _ _ iht ihu => exact iht.merge ihu

/-! ## Resolving -/

theorem resolve_congr (t : Tree) (same : ∀ id, id ∈ ids ↔ id ∈ more) :
    t.resolve ids = t.resolve more := by
  refine sortedSet_eq_iff.2 fun s => ?_
  simp only [List.mem_flatMap, same]

/-- What two lists of requests stand for together is the union of what each stands for. -/
theorem resolve_append (t : Tree) (ids more : List String) :
    t.resolve (ids ++ more) = (t.resolve ids ∪ t.resolve more).mergeSort := by
  have ascends := pairwise_resolve t (ids ++ more)
  have distinct (ids : List String) : (t.resolve ids).Nodup :=
    nodup_of_pairwise_lt (pairwise_resolve t ids)
  have perm : (t.resolve (ids ++ more)).Perm (t.resolve ids ∪ t.resolve more) := by
    rw [List.perm_ext_iff_of_nodup (distinct _) (List.Nodup.union _ (distinct more))]
    intro s
    simp only [List.mem_union_iff, mem_resolve, List.mem_append, or_and_right, exists_or]
  have sorted : (t.resolve ids ∪ t.resolve more).mergeSort.Pairwise (· ≤ ·) := by
    simpa using @List.pairwise_mergeSort String (· ≤ ·)
      (by simpa using fun a b c => String.le_trans) (by simpa using String.le_total) _
  refine (perm.trans (List.mergeSort_perm _ _).symm).eq_of_pairwise
    (fun x y _ _ => String.le_antisymm) (ascends.imp Std.le_of_lt) sorted

/-- Without a tree permissions are expanded as with an empty one. -/
theorem resolve_leaf (ids : List String) : leaf.resolve ids = sortedSet ids := by
  have kept (id : String) : leaf.expand id = [id] := by
    refine expand_eq_self (t := leaf) trivial ?_
    rintro ⟨further, leads⟩
    exact pathNames_ne_nil id (List.append_eq_nil_iff.1 (hasLeaf_leaf.1 leads.ends)).1
  have unchanged : ids.flatMap leaf.expand = ids := by
    simp [funext kept]
  rw [resolve, unchanged]

/-- In a clean tree, and so in every tree that is put together from paths and lists of paths, the
result of resolving ascends and holds exactly what the requests stand for.  It depends on which
permissions are requested and not on how, two lists of requests give the union of what each gives,
whoever requests more gets no less, and without a tree requests are resolved as with an empty one. -/
theorem resolve_of_clean (ht : t.Ordered) (clean : t.Clean) (ids : List String) :
    (∀ u : Tree, u.Assembled → u.Ordered ∧ u.Clean) ∧
    (t.resolve ids).Pairwise (· < ·) ∧
    (∀ s, s ∈ t.resolve ids ↔ ∃ id ∈ ids, t.StandsFor id s) ∧
    (∀ more, (∀ id, id ∈ ids ↔ id ∈ more) → t.resolve ids = t.resolve more) ∧
    (∀ more, t.resolve (ids ++ more) = (t.resolve ids ∪ t.resolve more).mergeSort) ∧
    (∀ more, ids ⊆ more → t.resolve ids ⊆ t.resolve more) ∧
    Resolver.flat.resolve ids = (Resolver.tree leaf).resolve ids := by
  refine ⟨?_, pairwise_resolve t ids, ?_, ?_, ?_, ?_, ?_⟩
  · exact fun u assembled => ⟨assembled.ordered, assembled.clean⟩
  · intro s
    simp only [mem_resolve, mem_expand_iff_standsFor ht clean]
  · exact fun more same => resolve_congr t same
  · exact fun more => resolve_append t ids more
  · intro more included s
    exact (Resolver.tree t).resolve_subset (fun id mem => included mem) s
  · exact (resolve_leaf ids).symm

/-- The permissions of a house: some paths, written with more colons than they need. -/
def houseTree : Tree :=
  ((leaf.insert "idm:users:read").insert ":idm::users:write").merge (leaf.insert "idm:roles:read:")

/-- An inner node stands for its leaves, a leaf, an unknown path and a path below a leaf for
themselves. -/
theorem houseTree_resolve :
    houseTree.Ordered ∧ houseTree.Clean ∧
    houseTree.resolve ["idm:users", "idm:users:read:all", "idm:groups", "idm:roles:read"] =
      ["idm:groups", "idm:roles:read", "idm:users:read", "idm:users:read:all", "idm:users:write"] ∧
    houseTree.StandsFor "idm:users" "idm:users:write" := by
  have assembled : houseTree.Assembled :=
    .merge (.insert (.insert .empty _) _) (.insert .empty _)
  have written := resolve_of_clean assembled.ordered assembled.clean ["idm:users"]
  have found : "idm:users:write" ∈ houseTree.resolve ["idm:users"] := by decide +kernel
  refine ⟨assembled.ordered, assembled.clean, by decide +kernel, ?_⟩
  obtain ⟨id, mem, stands⟩ := (written.2.2.1 _).1 found
  cases List.mem_singleton.1 mem
  exact stands

end Gatehouse.Permission.Tree
