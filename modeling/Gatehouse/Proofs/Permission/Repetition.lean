import Gatehouse.Proofs.Except
import Gatehouse.Proofs.Permission.Building
import Gatehouse.Proofs.Permission.Expansion

/-!
# Resolving permissions - Resolving what was resolved

Resolving leaves alone what it gives, unless a leaf is written like a node with children: a name with a
colon in it is read as two names.  Lists of paths never make such names, but the members of an object
can.

Main definitions:

- `Tree.Legible`: no leaf that a request leads to is written like a node with children.
- `Tree.Loaded`: trees that are read from documents and put together.

Main results:

- Theorem `Tree.resolve_idempotent_iff`: when resolving again changes nothing.
- Theorem `Tree.Loaded.colonFree`: where the names of an object have no colon in them, the names of a
  tree have none.
- Theorem `Tree.loaded_resolve_idempotent_iff`: resolving again for trees that are loaded.
-/

namespace Gatehouse.Permission.Tree

open Text (joinWith)

variable {t u : Tree} {s id : String} {ids further : List String}

/-! ## Reading back -/

/-- The names on the path of a leaf that a request leads to, as they are read back. -/
theorem pathNames_joinWith (onward : further ≠ []) (id : String) :
    pathNames (joinWith ":" (pathNames id ++ further)) =
      pathNames id ++ further.flatMap pathNames := by
  have cut : pathNames (id ++ ":" ++ joinWith ":" further) =
      pathNames id ++ pathNames (joinWith ":" further) :=
    @Text.splitOn_append ':' id _
  rw [joinWith_pathNames_append onward, cut, pathNames_joined onward]

theorem joinWith_ne_empty (named : id ≠ "") (onward : further ≠ []) :
    joinWith ":" (pathNames id ++ further) ≠ "" := by
  rw [joinWith_pathNames_append onward]
  simp [named]

/-- No leaf that a request leads to is written like a node with children. -/
def Legible (t : Tree) : Prop :=
  ∀ id further, t.LeadsTo id further → ¬t.HasInner (pathNames id ++ further.flatMap pathNames)

theorem exists_leadsTo_iff_hasInner (ht : t.Ordered) :
    (∃ further, t.LeadsTo id further) ↔ id ≠ "" ∧ t.HasInner (pathNames id) := by
  rw [exists_leadsTo_iff ht, hasInner_iff ht]
  by_cases named : id = ""
  · simp [find?, named]
  · simp [find?, named]

/-- The tree is legible when nothing that a request is expanded to leads any further. -/
theorem legible_iff (ht : t.Ordered) :
    t.Legible ↔ ∀ id, ∀ s ∈ t.expand id, ¬∃ further, t.LeadsTo s further := by
  simp only [exists_leadsTo_iff_hasInner ht]
  constructor
  · intro legible id s mem
    rcases (mem_expand_iff ht).1 mem with ⟨further, leads, rfl⟩ | ⟨lost, rfl⟩
    · rw [pathNames_joinWith leads.onward]
      exact fun inner => legible id further leads inner.2
    · rwa [← exists_leadsTo_iff_hasInner ht]
  · intro stays id further leads inner
    have mem := (expand_of_leadsTo ht leads).2 ⟨further, leads, rfl⟩
    refine stays id _ mem ⟨joinWith_ne_empty leads.named leads.onward, ?_⟩
    rwa [pathNames_joinWith leads.onward]

/-! ## Resolving again -/

theorem resolve_resolve_of_legible (ht : t.Ordered) (legible : t.Legible) (ids : List String) :
    t.resolve (t.resolve ids) = t.resolve ids := by
  refine eq_of_pairwise_lt (pairwise_resolve t _) (pairwise_resolve t ids) fun s => ?_
  have kept : ∀ x ∈ t.resolve ids, t.expand x = [x] := by
    intro x mem
    obtain ⟨id, -, stands⟩ := mem_resolve.1 mem
    exact expand_eq_self ht ((legible_iff ht).1 legible id x stands)
  rw [mem_resolve]
  constructor
  · rintro ⟨x, mem, stands⟩
    rw [kept x mem, List.mem_singleton] at stands
    exact stands ▸ mem
  · intro mem
    exact ⟨s, mem, by simp [kept s mem]⟩

/-- The leaves that a request leads to are written longer than the request. -/
theorem length_lt_of_leadsTo (leads : t.LeadsTo id further) :
    id.length < (joinWith ":" (pathNames id ++ further)).length := by
  have colon : ":".length = 1 := rfl
  rw [joinWith_pathNames_append leads.onward, String.length_append, String.length_append, colon]
  omega

/-- Where resolving again changes nothing, the shortest text that would lead further does not come
from a shorter one. -/
theorem legible_of_resolve_resolve (ht : t.Ordered)
    (idempotent : ∀ ids, t.resolve (t.resolve ids) = t.resolve ids) : t.Legible := by
  refine (legible_iff ht).2 fun id => ?_
  have stays : ∀ n, ∀ s ∈ t.expand id, s.length = n → ¬∃ further, t.LeadsTo s further := by
    intro n
    induction n using Nat.strongRecOn with
    | ind n ih =>
        intro s mem size leads
        have again : s ∈ t.resolve (t.resolve [id]) := by
          rw [idempotent]
          exact mem_resolve.2 ⟨id, List.mem_singleton_self id, mem⟩
        obtain ⟨x, first, second⟩ := mem_resolve.1 again
        obtain ⟨id', same, mem'⟩ := mem_resolve.1 first
        cases List.mem_singleton.1 same
        rcases (mem_expand_iff ht).1 second with ⟨further, led, rfl⟩ | ⟨lost, rfl⟩
        · exact ih x.length (size ▸ length_lt_of_leadsTo led) x mem' rfl ⟨further, led⟩
        · exact lost leads
  exact fun s mem => stays s.length s mem rfl

/-- Resolving again changes nothing exactly in legible trees. -/
theorem resolve_idempotent_iff (ht : t.Ordered) :
    (∀ ids, t.resolve (t.resolve ids) = t.resolve ids) ↔ t.Legible :=
  ⟨legible_of_resolve_resolve ht, resolve_resolve_of_legible ht⟩

/-- No name in the tree has a colon in it. -/
def ColonFree (t : Tree) : Prop :=
  t.AllNames fun name => ':' ∉ name.toList

theorem Clean.colonFree (clean : t.Clean) : t.ColonFree := fun path node name mem =>
  (clean path node name mem).2

theorem ColonFree.legible (free : t.ColonFree) : t.Legible := by
  intro id further leads inner
  have back : further.flatMap pathNames = further :=
    flatMap_pathNames_of_colonFree fun name mem =>
      free _ leads.ends.1 name (List.mem_append_right _ mem)
  rw [back] at inner
  exact leads.ends.2 inner

/-! ## Trees that are loaded -/

mutual
/-- No member of an object has a name with a colon in it. -/
def Plain : Json.Value → Prop
  | .object members => PlainMembers members
  | _ => True

/-- Neither the members nor what they hold have names with a colon in them. -/
def PlainMembers : List (String × Json.Value) → Prop
  | [] => True
  | (name, v) :: rest => ':' ∉ name.toList ∧ Plain v ∧ PlainMembers rest
end

mutual
/-- The names in a plain document come without colons, and lists bring none in. -/
theorem colonFree_ofJson? : ∀ (v : Json.Value) {t : Tree}, Plain v → ofJson? v = some t → t.ColonFree
  | .null, _, _, h => by
      cases h
      exact allNames_leaf
  | .array items, _, _, h => (@Assembled.list items _ h).clean.colonFree
  | .object members, _, plain, h =>
      colonFree_ofMembers? members allNames_leaf plain h
  | .bool _, _, _, h | .number _, _, _, h | .string _, _, _, h | .unusable, _, _, h => by cases h

theorem colonFree_ofMembers? : ∀ (members : List (String × Json.Value)) {t u : Tree}, t.ColonFree →
    PlainMembers members → ofMembers? members t = some u → u.ColonFree
  | [], _, _, ht, _, h => by
      cases h
      exact ht
  | (name, v) :: rest, t, _, ht, plain, h => by
      rw [ofMembers?] at h
      split at h
      · rename_i below read
        have inside : below.ColonFree := colonFree_ofJson? v plain.2.1 read
        exact colonFree_ofMembers? rest (ht.update plain.1 fun _ => inside) plain.2.2 h
      · cases h
end

/-- A tree that is put together from documents. -/
inductive Loaded (admitted : Json.Value → Prop) : Tree → Prop where
  | empty : Loaded admitted leaf
  | document {v : Json.Value} {t : Tree} (admits : admitted v) (read : ofJson? v = some t) :
      Loaded admitted t
  | merge {t u : Tree} (ht : Loaded admitted t) (hu : Loaded admitted u) :
      Loaded admitted (t.merge u)

variable {admitted : Json.Value → Prop}

theorem Loaded.ordered (h : t.Loaded admitted) : t.Ordered := by
  induction h with
  | empty => trivial
  | document _ read => exact ordered_ofJson? _ read
  | merge _ _ iht _ => exact iht.merge _

/-- Where the names of an object have no colon in them, the names of a tree have none. -/
theorem Loaded.colonFree (h : t.Loaded admitted) (plain : ∀ v, admitted v → Plain v) :
    t.ColonFree := by
  induction h with
  | empty => exact allNames_leaf
  | document admits read => exact colonFree_ofJson? _ (plain _ admits) read
  | merge _ _ iht ihu => exact iht.merge ihu

end Gatehouse.Permission.Tree

namespace Gatehouse.Startup.Surroundings

open CommandLine (Options)
open Permission (Tree)

variable {s : Surroundings} {o : Options} {t : Tree}

/-- A document is written in one of the files that the options name. -/
def Holds (s : Surroundings) (o : Options) (v : Json.Value) : Prop :=
  ∃ path ∈ o.treePaths, ∃ text, s.file path = some text ∧ Json.parse? text = some v

theorem loaded_of_addFile {before after : Tree} {path : String} (mem : path ∈ o.treePaths)
    (loaded : before.Loaded (s.Holds o)) (h : s.addFile before path = .ok after) :
    after.Loaded (s.Holds o) := by
  cases read : s.load Tree.ofJson? path with
  | error e =>
      rw [addFile, read] at h
      cases h
  | ok part =>
      rw [addFile, read] at h
      cases h
      obtain ⟨text, file, parsed⟩ := load_eq_ok_iff.1 read
      obtain ⟨v, document, tree⟩ := Option.bind_eq_some_iff.1 parsed
      exact loaded.merge (.document ⟨path, mem, text, file, document⟩ tree)

/-- The tree that permissions are expanded through is put together from the documents in the files. -/
theorem loaded_of_resolver (h : s.resolver o = .ok (.tree t)) : t.Loaded (s.Holds o) := by
  have onward : ∀ (paths : List String) {start : Tree}, (∀ path ∈ paths, path ∈ o.treePaths) →
      start.Loaded (s.Holds o) → paths.foldlM s.addFile start = .ok t →
      t.Loaded (s.Holds o) := by
    intro paths
    induction paths with
    | nil =>
        intro start _ loaded same
        cases same
        exact loaded
    | cons path rest ih =>
        intro start named loaded folded
        rw [List.foldlM_cons] at folded
        obtain ⟨next, added, remaining⟩ := exists_of_bind_eq_ok folded
        exact ih (fun p mem => named p (List.mem_cons_of_mem _ mem))
          (loaded_of_addFile (named path List.mem_cons_self) loaded added) remaining
  exact onward o.treePaths (fun _ mem => mem) .empty (resolver_eq_tree_iff_foldlM.1 h).2

end Gatehouse.Startup.Surroundings

namespace Gatehouse.Permission.Tree

open CommandLine (Options)
open Startup (Surroundings)

variable {t : Tree} {admitted : Json.Value → Prop}

/-- Resolving what was resolved changes nothing exactly when no leaf that a request leads to is written
like a node with children.  That is so where no member of an object has a name with a colon in it, as
in all trees that are made of lists of paths. -/
theorem loaded_resolve_idempotent_iff (loaded : t.Loaded admitted) :
    ((∀ ids, t.resolve (t.resolve ids) = t.resolve ids) ↔ t.Legible) ∧
    ((∀ v, admitted v → Plain v) → ∀ ids, t.resolve (t.resolve ids) = t.resolve ids) ∧
    (∀ (s : Surroundings) (o : Options) (u : Tree), s.resolver o = .ok (.tree u) →
      u.Loaded (s.Holds o)) := by
  have idempotent := resolve_idempotent_iff loaded.ordered
  refine ⟨idempotent, ?_, fun s o u h => Surroundings.loaded_of_resolver h⟩
  intro plain
  exact idempotent.2 (loaded.colonFree plain).legible

/-- A document in which a leaf is written like the node above another one. -/
def colonDocument : Json.Value :=
  .object [("a", .object [("b:c", .null), ("b", .object [("c", .object [("d", .null)])])])]

/-- The tree in this document. -/
def colonTree : Tree :=
  (ofJson? colonDocument).getD leaf

/-- A leaf that a first request is expanded to is lost in the second one. -/
theorem colonTree_resolve_twice :
    colonTree.Loaded (· = colonDocument) ∧ ¬colonTree.Legible ∧
    colonTree.resolve ["a"] = ["a:b:c", "a:b:c:d"] ∧
    colonTree.resolve (colonTree.resolve ["a"]) = ["a:b:c:d"] := by
  have loaded : colonTree.Loaded (· = colonDocument) := .document rfl rfl
  have once : colonTree.resolve ["a"] = ["a:b:c", "a:b:c:d"] := by decide +kernel
  have twice : colonTree.resolve ["a:b:c", "a:b:c:d"] = ["a:b:c:d"] := by decide +kernel
  refine ⟨loaded, ?_, once, by rw [once, twice]⟩
  intro legible
  have again := (loaded_resolve_idempotent_iff loaded).1.2 legible ["a"]
  rw [once, twice] at again
  exact absurd again (by decide)

end Gatehouse.Permission.Tree
