import Gatehouse.Permission.Tree

/-!
# Permission trees - Nodes and their paths

A tree whose children stand in the order of their names is known by the paths of its nodes.  What the
operations on trees do is said of these paths here.

Main definitions:

- `Tree.HasNode`, `Tree.HasLeaf` and `Tree.HasInner`: what there is at a path.
- `Tree.Ordered`: children stand in the order of their names.
- `Tree.only`: the tree that has only the nodes on one path.
- `Tree.AllNames`: all names in a tree are of one kind.

Main results:

- Theorem `Tree.eq_of_hasNode`: ordered trees with the same nodes are equal.
- Theorem `Tree.hasNode_merge` and theorem `Tree.hasNode_insertPath`: the nodes of trees that are made
  of others.
- Theorem `Tree.ordered_ofJson?`: trees are read in order.
- Theorem `Tree.hasNode_append_iff`: the nodes below the node at a path.
-/

namespace Gatehouse.Permission.Tree

variable {t u extra : Tree} {name x : String} {path rest : List String} {change : Tree → Tree}
  {kind : String → Prop}

/-! ## What there is at a path -/

/-- There is a node at the path; the root stands at the empty path. -/
def HasNode : Tree → List String → Prop
  | _, [] => True
  | .leaf, _ :: _ => False
  | .child name below others, x :: path =>
    (x = name ∧ below.HasNode path) ∨ others.HasNode (x :: path)

instance decidableHasNode : (t : Tree) → (path : List String) → Decidable (t.HasNode path)
  | _, [] => .isTrue (by simp [HasNode])
  | .leaf, _ :: _ => .isFalse (by simp [HasNode])
  | .child name below others, x :: path =>
    have := decidableHasNode below path
    have := decidableHasNode others (x :: path)
    decidable_of_iff ((x = name ∧ below.HasNode path) ∨ others.HasNode (x :: path)) (by
      simp [HasNode])

/-- There is a node with children at the path. -/
def HasInner (t : Tree) (path : List String) : Prop :=
  ∃ name, t.HasNode (path ++ [name])

/-- There is a node without children at the path. -/
def HasLeaf (t : Tree) (path : List String) : Prop :=
  t.HasNode path ∧ ¬t.HasInner path

/-- The names of the children of the root. -/
def names : Tree → List String
  | .leaf => []
  | .child name _ others => name :: others.names

/-- All children stand in the order of their names, each name once. -/
def Ordered : Tree → Prop
  | .leaf => True
  | .child name below others => (∀ x ∈ others.names, name < x) ∧ below.Ordered ∧ others.Ordered

instance decidableOrdered : (t : Tree) → Decidable t.Ordered
  | .leaf => .isTrue trivial
  | .child name below others =>
    have := decidableOrdered below
    have := decidableOrdered others
    decidable_of_iff ((∀ x ∈ others.names, name < x) ∧ below.Ordered ∧ others.Ordered) (by
      simp [Ordered])

@[simp] theorem hasNode_nil (t : Tree) : t.HasNode [] := by
  cases t <;> trivial

@[simp] theorem hasNode_leaf : leaf.HasNode path ↔ path = [] := by
  cases path <;> simp [HasNode]

@[simp] theorem hasNode_child {below others : Tree} :
    (child name below others).HasNode (x :: path) ↔
      (x = name ∧ below.HasNode path) ∨ others.HasNode (x :: path) :=
  Iff.rfl

theorem mem_names_iff : x ∈ t.names ↔ t.HasNode [x] := by
  induction t with
  | leaf => simp [names]
  | child name below others _ ih => simp [names, ih]

/-- Where there is a node, there are nodes on the way to it. -/
theorem hasNode_of_append (h : t.HasNode (path ++ rest)) : t.HasNode path := by
  induction t generalizing path with
  | leaf =>
      rw [hasNode_leaf, List.append_eq_nil_iff] at h
      exact hasNode_leaf.2 h.1
  | child name below others ihb iho =>
      cases path with
      | nil => exact hasNode_nil _
      | cons x path =>
          rcases hasNode_child.1 h with ⟨here, inside⟩ | beside
          · exact .inl ⟨here, ihb inside⟩
          · exact .inr (iho beside)

theorem mem_names_of_hasNode (h : t.HasNode (x :: path)) : x ∈ t.names :=
  mem_names_iff.2 (@hasNode_of_append _ [x] path h)

/-! ## Ordered trees -/

theorem not_hasNode_of_lt (h : ∀ y ∈ t.names, name < y) : ¬t.HasNode (name :: path) := fun node =>
  String.lt_irrefl name (h name (mem_names_of_hasNode node))

/-- In an ordered tree the first child is the only one of its name. -/
theorem hasNode_child_self {below others : Tree} (ordered : (child name below others).Ordered) :
    (child name below others).HasNode (name :: path) ↔ below.HasNode path := by
  simp [not_hasNode_of_lt ordered.1]

theorem hasNode_child_of_ne {below others : Tree} (other : x ≠ name) :
    (child name below others).HasNode (x :: path) ↔ others.HasNode (x :: path) := by
  simp [other]

theorem mem_names_update : x ∈ (t.update name change).names ↔ x = name ∨ x ∈ t.names := by
  induction t with
  | leaf => simp [update, names]
  | child n below others _ ih =>
      rw [update]
      split
      · rename_i here
        simp [names, here]
      · split
        · simp [names]
        · simp only [names, List.mem_cons, ih]
          exact or_left_comm

/-- A change below a name keeps the order. -/
theorem Ordered.update (ht : t.Ordered) (keeps : ∀ u : Tree, u.Ordered → (change u).Ordered)
    (name : String) : (t.update name change).Ordered := by
  induction t with
  | leaf => exact ⟨nofun, keeps leaf trivial, trivial⟩
  | child n below others _ ih =>
      rw [Tree.update]
      split
      · exact ⟨ht.1, keeps below ht.2.1, ht.2.2⟩
      · rename_i other
        split
        · rename_i before
          refine ⟨?_, keeps leaf trivial, ht⟩
          intro x hx
          rcases List.mem_cons.1 hx with rfl | later
          · exact before
          · exact String.lt_trans before (ht.1 x later)
        · rename_i notBefore
          refine ⟨?_, ht.2.1, ih ht.2.2⟩
          intro x hx
          rcases mem_names_update.1 hx with rfl | later
          · exact Std.lt_of_le_of_ne (Std.not_lt.1 notBefore) (Ne.symm other)
          · exact ht.1 x later

/-- A change that adds the nodes of a tree below a name adds the nodes of the tree with that child. -/
theorem hasNode_update (adds : ∀ (u : Tree) path,
      (change u).HasNode path ↔ u.HasNode path ∨ extra.HasNode path) :
    (t.update name change).HasNode path ↔
      t.HasNode path ∨ (child name extra leaf).HasNode path := by
  cases path with
  | nil => simp
  | cons x path =>
      have alone : (child name extra leaf).HasNode (x :: path) ↔ x = name ∧ extra.HasNode path := by
        simp
      have fresh : (change leaf).HasNode path ↔ extra.HasNode path := by
        rw [adds, hasNode_leaf, or_iff_right_of_imp]
        rintro rfl
        exact hasNode_nil extra
      rw [alone]
      induction t with
      | leaf => simp [update, fresh]
      | child n below others _ ih =>
          rw [update]
          split
          · rename_i here
            subst here
            rw [hasNode_child, hasNode_child, adds, and_or_left, or_right_comm]
          · split
            · rw [hasNode_child, fresh, or_comm]
            · rw [hasNode_child, hasNode_child, or_assoc]
              exact or_congr_right ih

/-- What stands in a changed tree stood there before or stands below the name. -/
theorem of_hasNode_update (h : (t.update name change).HasNode path) :
    t.HasNode path ∨ ∃ u, (child name (change u) leaf).HasNode path := by
  cases path with
  | nil => exact .inl (hasNode_nil t)
  | cons x path =>
      induction t with
      | leaf => exact .inr ⟨leaf, h⟩
      | child n below others _ ih =>
          rw [update] at h
          split at h
          · rename_i here
            subst here
            rcases hasNode_child.1 h with inside | beside
            · exact .inr ⟨below, .inl inside⟩
            · exact .inl (.inr beside)
          · split at h
            · rcases hasNode_child.1 h with inside | before
              · exact .inr ⟨leaf, .inl inside⟩
              · exact .inl before
            · rcases hasNode_child.1 h with inside | beside
              · exact .inl (.inl inside)
              · exact (ih beside).imp_left .inr

/-- The nodes of two trees that are put together. -/
theorem hasNode_merge : (t.merge u).HasNode path ↔ t.HasNode path ∨ u.HasNode path := by
  induction u generalizing t path with
  | leaf => cases path <;> simp [merge]
  | child name below others ihb iho =>
      rw [merge, iho, hasNode_update fun mine path => ihb]
      cases path with
      | nil => simp
      | cons x path =>
          simp [or_assoc]

theorem Ordered.merge (ht : t.Ordered) (u : Tree) : (t.merge u).Ordered := by
  induction u generalizing t with
  | leaf => exact ht
  | child name below others ihb iho => exact iho (ht.update (fun _ mine => ihb mine) name)

/-- The tree that has only the nodes on one path. -/
def only : List String → Tree
  | [] => .leaf
  | name :: path => .child name (only path) .leaf

theorem hasNode_only : (only path).HasNode rest ↔ rest <+: path := by
  induction path generalizing rest with
  | nil => simp [only]
  | cons name path ih =>
      cases rest with
      | nil => simp
      | cons x rest => simp [only, ih, List.cons_prefix_cons]

theorem hasNode_insertPath :
    (insertPath path t).HasNode rest ↔ t.HasNode rest ∨ (only path).HasNode rest := by
  induction path generalizing t rest with
  | nil => cases rest <;> simp [insertPath, only]
  | cons name path ih => exact hasNode_update fun mine rest => ih

theorem Ordered.insertPath (ht : t.Ordered) (path : List String) : (insertPath path t).Ordered := by
  induction path generalizing t with
  | nil => exact ht
  | cons name path ih => exact ht.update (fun _ mine => ih mine) name

theorem Ordered.insert (ht : t.Ordered) (path : String) : (t.insert path).Ordered :=
  ht.insertPath _

/-! ## Names -/

/-- All names in the tree are of one kind. -/
def AllNames (kind : String → Prop) (t : Tree) : Prop :=
  ∀ path, t.HasNode path → ∀ name ∈ path, kind name

theorem allNames_leaf : leaf.AllNames kind := by
  intro path node
  simp [hasNode_leaf.1 node]

theorem AllNames.update (ht : t.AllNames kind) (named : kind name)
    (changed : ∀ u : Tree, (change u).AllNames kind) : (t.update name change).AllNames kind := by
  intro path node x mem
  rcases of_hasNode_update node with before | ⟨u, below⟩
  · exact ht path before x mem
  · cases path with
    | nil => cases mem
    | cons y path =>
        rcases hasNode_child.1 below with ⟨rfl, inside⟩ | none
        · rcases List.mem_cons.1 mem with rfl | deeper
          · exact named
          · exact changed u path inside x deeper
        · cases hasNode_leaf.1 none

theorem AllNames.merge (ht : t.AllNames kind) (hu : u.AllNames kind) :
    (t.merge u).AllNames kind := by
  intro path node
  rcases hasNode_merge.1 node with mine | yours
  · exact ht path mine
  · exact hu path yours

theorem AllNames.insertPath (ht : t.AllNames kind) (named : ∀ name ∈ path, kind name) :
    (insertPath path t).AllNames kind := by
  intro rest node name mem
  rcases hasNode_insertPath.1 node with before | along
  · exact ht rest before name mem
  · exact named name ((hasNode_only.1 along).subset mem)

/-! ## Reading -/

mutual
/-- Trees are read in order. -/
theorem ordered_ofJson? : ∀ (v : Json.Value) {t : Tree}, ofJson? v = some t → t.Ordered
  | .null, _, h => by
      cases h
      trivial
  | .array items, _, h => by
      obtain ⟨paths, -, rfl⟩ := Option.map_eq_some_iff.1 h
      exact List.foldlRecOn paths _ trivial fun t ht path _ => ht.insert path
  | .object members, _, h => ordered_ofMembers? members (t := .leaf) trivial h
  | .bool _, _, h | .number _, _, h | .string _, _, h | .unusable, _, h => by cases h

theorem ordered_ofMembers? : ∀ (members : List (String × Json.Value)) {t u : Tree}, t.Ordered →
    ofMembers? members t = some u → u.Ordered
  | [], _, _, ht, h => by
      cases h
      exact ht
  | (name, v) :: rest, t, _, ht, h => by
      rw [ofMembers?] at h
      split at h
      · rename_i below read
        exact ordered_ofMembers? rest (ht.update (fun _ _ => ordered_ofJson? v read) name) h
      · cases h
end

/-! ## Finding -/

theorem hasNode_cons_iff (ht : t.Ordered) :
    t.HasNode (x :: path) ↔ ∃ u, t.child? x = some u ∧ u.HasNode path := by
  induction t with
  | leaf => simp [child?]
  | child name below others _ ih =>
      rw [child?]
      by_cases here : x = name
      · subst here
        simp [hasNode_child_self ht]
      · rw [if_neg here, hasNode_child_of_ne here]
        exact ih ht.2.2

theorem Ordered.child? (ht : t.Ordered) (h : t.child? x = some u) : u.Ordered := by
  induction t with
  | leaf => cases h
  | child name below others _ ih =>
      rw [Tree.child?] at h
      split at h
      · cases h
        exact ht.2.1
      · exact ih ht.2.2 h

theorem Ordered.findPath? (ht : t.Ordered) (h : findPath? path t = some u) : u.Ordered := by
  induction path generalizing t with
  | nil =>
      cases h
      exact ht
  | cons x path ih =>
      obtain ⟨below, found, onward⟩ := Option.bind_eq_some_iff.1 h
      exact ih (ht.child? found) onward

/-- The nodes below a path are those of the node that is found there. -/
theorem hasNode_append_iff (ht : t.Ordered) :
    t.HasNode (path ++ rest) ↔ ∃ u, findPath? path t = some u ∧ u.HasNode rest := by
  induction path generalizing t with
  | nil => simp [Tree.findPath?]
  | cons x path ih =>
      rw [List.cons_append, hasNode_cons_iff ht, Tree.findPath?]
      constructor
      · rintro ⟨below, found, inside⟩
        obtain ⟨u, onward, node⟩ := (ih (ht.child? found)).1 inside
        exact ⟨u, Option.bind_eq_some_iff.2 ⟨below, found, onward⟩, node⟩
      · rintro ⟨u, found, node⟩
        obtain ⟨below, here, onward⟩ := Option.bind_eq_some_iff.1 found
        exact ⟨below, here, (ih (ht.child? here)).2 ⟨u, onward, node⟩⟩

theorem hasLeaf_append_iff (ht : t.Ordered) :
    t.HasLeaf (path ++ rest) ↔ ∃ u, findPath? path t = some u ∧ u.HasLeaf rest := by
  simp only [HasLeaf, HasInner, List.append_assoc, hasNode_append_iff ht]
  grind

theorem hasInner_iff (ht : t.Ordered) :
    t.HasInner path ↔ ∃ u, findPath? path t = some u ∧ u ≠ leaf := by
  simp only [HasInner, hasNode_append_iff ht]
  constructor
  · rintro ⟨name, u, found, node⟩
    refine ⟨u, found, ?_⟩
    rintro rfl
    simp at node
  · rintro ⟨u, found, inner⟩
    cases u with
    | leaf => exact absurd rfl inner
    | child name below others => exact ⟨name, _, found, by simp⟩

/-! ## Leaves -/

theorem hasLeaf_child {below others : Tree} (ordered : (child name below others).Ordered) :
    (child name below others).HasLeaf (x :: path) ↔
      (x = name ∧ below.HasLeaf path) ∨ others.HasLeaf (x :: path) := by
  by_cases here : x = name
  · subst here
    have absent (path : List String) : ¬others.HasNode (x :: path) := not_hasNode_of_lt ordered.1
    simp [HasLeaf, HasInner, absent]
  · simp [HasLeaf, HasInner, here]

@[simp] theorem hasLeaf_leaf : leaf.HasLeaf path ↔ path = [] := by
  simp [HasLeaf, HasInner]

theorem not_hasLeaf_nil {below others : Tree} : ¬(child name below others).HasLeaf [] := fun bare =>
  bare.2 ⟨name, by simp⟩

/-- There is a leaf below every node with children. -/
theorem exists_hasLeaf (ht : t.Ordered) (inner : t ≠ leaf) : ∃ name path, t.HasLeaf (name :: path) := by
  induction t with
  | leaf => exact absurd rfl inner
  | child name below others ihb _ =>
      by_cases bare : below = leaf
      · refine ⟨name, [], (hasLeaf_child ht).2 (.inl ⟨rfl, ?_⟩)⟩
        simp [bare, HasLeaf, HasInner]
      · obtain ⟨name', path, ends⟩ := ihb ht.2.1 bare
        exact ⟨name, name' :: path, (hasLeaf_child ht).2 (.inl ⟨rfl, ends⟩)⟩

end Gatehouse.Permission.Tree
