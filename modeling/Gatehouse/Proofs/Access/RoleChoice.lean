import Gatehouse.Proofs.Access.Lifecycle
import Gatehouse.Proofs.Store.Listing
import Mathlib.Data.Finset.Card
import Mathlib.Data.List.Induction

/-!
# API tokens of a user - Which roles the wanted ones pick

A wanted role is told by its id or its name, and the first role of the user that has the text as
either is picked.  An id therefore picks the role with that id unless it is also the name of a role
before that one.

Main definitions:

- `pickedRole?`: the role that a text picks.
- `IsOvershadowed`: an id is the name of a role before the one with that id.

Main results:

- Theorem `selectRoles_of_picked` and theorem `ids_foldl_withRole`: the picked roles are selected in
  the order in which they are first wanted, each once.
- Theorem `pickedRole?_of_id`: an id picks the role with that id unless it is overshadowed.
- Theorem `generateApiToken_of_ids`: what a token gets whose roles are wanted by their ids.
-/

namespace Gatehouse.Access

open Store (Memory Role)
open Token (Time)

/-! ## Lists without repetitions -/

section Repetitions

variable {α : Type} [DecidableEq α]

theorem eraseDups_concat (l : List α) (a : α) :
    (l ++ [a]).eraseDups = if a ∈ l then l.eraseDups else l.eraseDups ++ [a] := by
  rw [List.eraseDups_append]
  by_cases known : a ∈ l
  · simp [List.removeAll, known]
  · simp [List.removeAll, known, List.eraseDups_cons]

theorem nodup_eraseDups (l : List α) : l.eraseDups.Nodup := by
  cases l with
  | nil => exact List.nodup_nil
  | cons a l =>
      rw [List.eraseDups_cons, List.nodup_cons, List.mem_eraseDups]
      exact ⟨by simp, nodup_eraseDups _⟩
termination_by l.length
decreasing_by exact Nat.lt_succ_of_le (List.length_filter_le _ _)

/-- A map that is injective on a list keeps the first occurrences. -/
theorem eraseDups_map_of_injOn {β : Type} [DecidableEq β] {f : α → β} (l : List α)
    (injective : Set.InjOn f {a | a ∈ l}) : (l.map f).eraseDups = l.eraseDups.map f := by
  induction l using List.reverseRecOn with
  | nil => rfl
  | append_singleton l a ih =>
      have known : f a ∈ l.map f ↔ a ∈ l := by
        refine ⟨fun h => ?_, List.mem_map_of_mem⟩
        obtain ⟨b, hb, same⟩ := List.mem_map.1 h
        rwa [← injective (List.mem_append_left _ hb) (List.mem_append_right _ (by simp)) same]
      have shorter := ih (injective.mono fun b hb => List.mem_append_left _ hb)
      rw [List.map_append, List.map_singleton, eraseDups_concat, eraseDups_concat, shorter]
      by_cases hl : a ∈ l
      · rw [if_pos (known.2 hl), if_pos hl]
      · rw [if_neg (mt known.1 hl), if_neg hl, List.map_append, List.map_singleton]

/-- A map that leaves the first occurrences of a list as they are leaves every item as it is. -/
theorem eraseDups_map_eq_iff {f : α → α} (l : List α) :
    (l.map f).eraseDups = l.eraseDups ↔ ∀ a ∈ l, f a = a := by
  constructor
  · intro same
    -- The items of the list are those of the mapped one, so the map is injective on them.
    have onto : Set.SurjOn f (l.toFinset : Set α) l.toFinset := by
      intro a ha
      have item : a ∈ l := by simpa using ha
      rw [← List.mem_eraseDups, ← same, List.mem_eraseDups] at item
      obtain ⟨b, hb, rfl⟩ := List.mem_map.1 item
      exact ⟨b, by simpa using hb, rfl⟩
    have into : Set.MapsTo f (l.toFinset : Set α) l.toFinset := by
      intro a ha
      have item : f a ∈ l.map f := List.mem_map_of_mem (by simpa using ha)
      rw [← List.mem_eraseDups, same, List.mem_eraseDups] at item
      simpa using item
    have injective := Finset.injOn_of_surjOn_of_card_le f into onto le_rfl
    have mapped : l.eraseDups.map f = l.eraseDups.map id := by
      rw [List.map_id, ← eraseDups_map_of_injOn l (by simpa using injective), same]
    intro a ha
    exact List.map_eq_map_iff.1 mapped a (List.mem_eraseDups.2 ha)
  · intro fixed
    rw [List.map_congr_left (g := id) fixed, List.map_id]

end Repetitions

/-! ## Picking -/

/-- The role that a text picks: the first one that has the text as its id or its name. -/
def pickedRole? (available : List Role) (wanted : String) : Option Role :=
  available.find? fun role => role.id == wanted || role.name == wanted

/-- Select one more role, unless a role with its id is selected. -/
def withRole (selected : List Role) (role : Role) : List Role :=
  if selected.any (·.id == role.id) then selected else selected ++ [role]

/-- Select the role that a text picks. -/
def selecting (available selected : List Role) (wanted : String) : Except String (List Role) :=
  match pickedRole? available wanted with
  | none => .error wanted
  | some role => .ok (withRole selected role)

/-- An id is the name of a role that stands before the one with that id. -/
def IsOvershadowed (available : List Role) (id : String) : Prop :=
  ∃ other role, [other, role].Sublist available ∧ other.name = id ∧ role.id = id

variable {available : List Role}

/-- The wanted roles are selected one after the other. -/
theorem selectRoles_eq (available : List Role) (wanted : List String) :
    selectRoles available wanted = wanted.foldlM (selecting available) [] :=
  rfl

/-- Where every wanted text picks a role, these are selected one after the other. -/
theorem selectRoles_of_picked {pick : String → Role} {wanted : List String}
    (picked : ∀ name ∈ wanted, pickedRole? available name = some (pick name)) :
    selectRoles available wanted = .ok ((wanted.map pick).foldl withRole []) := by
  rw [selectRoles_eq]
  generalize ([] : List Role) = selected
  induction wanted generalizing selected with
  | nil => rfl
  | cons name wanted ih =>
      rw [List.forall_mem_cons] at picked
      rw [List.foldlM_cons, selecting, picked.1]
      exact ih picked.2 (withRole selected (pick name))

/-- The roles that are selected have the ids of the picked ones, each once, in the order in which
they were first picked. -/
theorem ids_foldl_withRole (roles : List Role) :
    (roles.foldl withRole []).map (·.id) = (roles.map (·.id)).eraseDups := by
  induction roles using List.reverseRecOn with
  | nil => rfl
  | append_singleton roles role ih =>
      have known : ((roles.foldl withRole []).any (·.id == role.id)) = true ↔
          role.id ∈ roles.map (·.id) := by
        rw [← List.mem_eraseDups, ← ih]
        simp
      rw [List.foldl_concat, withRole, List.map_append, List.map_singleton, eraseDups_concat]
      by_cases selected : role.id ∈ roles.map (·.id)
      · rw [if_pos (known.2 selected), if_pos selected, ih]
      · rw [if_neg (mt known.1 selected), if_neg selected, List.map_append, ih,
          List.map_singleton]

/-- The id of a role picks the role with that id unless it is overshadowed. -/
theorem pickedRole?_of_id {id : String} (distinct : (available.map (·.id)).Nodup)
    (known : id ∈ available.map (·.id)) :
    ∃ role, pickedRole? available id = some role ∧
      (role.id = id ↔ ¬IsOvershadowed available id) := by
  induction available with
  | nil => cases known
  | cons first rest ih =>
      rw [List.map_cons, List.nodup_cons] at distinct
      by_cases own : first.id = id
      · refine ⟨first, by simp [pickedRole?, own], iff_of_true own ?_⟩
        rintro ⟨other, role, sublist, -, named⟩
        have later : role ∈ rest := by
          cases sublist with
          | cons _ inner => exact inner.subset (by simp)
          | cons_cons _ inner => exact List.singleton_sublist.1 inner
        exact distinct.1 (List.mem_map.2 ⟨role, later, named.trans own.symm⟩)
      · have known : id ∈ rest.map (·.id) :=
          (List.mem_cons.1 known).resolve_left (Ne.symm own)
        by_cases called : first.name = id
        · obtain ⟨role, hrole, named⟩ := List.mem_map.1 known
          refine ⟨first, by simp [pickedRole?, called], iff_of_false own (not_not.2 ?_)⟩
          exact ⟨first, role, .cons_cons _ (List.singleton_sublist.2 hrole), called, named⟩
        · obtain ⟨role, picked, exact⟩ := ih distinct.2 known
          refine ⟨role, by simpa [pickedRole?, own, called] using picked, exact.trans ?_⟩
          refine not_congr ⟨?_, ?_⟩
          · rintro ⟨other, role, sublist, named⟩
            exact ⟨other, role, sublist.cons _, named⟩
          · rintro ⟨other, role, sublist, name, named⟩
            cases sublist with
            | cons _ inner => exact ⟨other, role, inner, name, named⟩
            | cons_cons _ inner => exact absurd name called

/-! ## Tokens -/

variable {m : Memory}

/-- A session gets a token for roles of its user that are wanted by their ids.  The token has the
roles that the ids pick, each once and in the order in which they are first wanted, and the store
gives them back for it.  These are the roles with the wanted ids if and only if none of the ids is
overshadowed. -/
theorem generateApiToken_of_ids (p : Principal) (o : Occasion) (wanted : List String)
    (expiresAt : Option Time) (description : String) (session : p.isApiToken = false)
    (future : expiresAt.any (· ≤ o.now) = false)
    (assigned : m.rolesOf (m.assignments.find? p.userId) = available)
    (distinct : (available.map (·.id)).Nodup)
    (known : ∀ id ∈ wanted, id ∈ available.map (·.id)) :
    ∃ granted, ∃ m' : Memory,
      (p.generateApiToken o (some wanted) expiresAt description).runOn m =
        (.ok (Principal.newToken o expiresAt description granted), m') ∧
      m'.rolesOf (m'.apiTokenRoles.find? o.apiTokenId) = granted ∧
      (∀ role ∈ granted, role ∈ available) ∧
      granted.map (·.id) =
        ((wanted.filterMap (pickedRole? available)).map (·.id)).eraseDups ∧
      (granted.map (·.id)).Nodup ∧
      (granted.map (·.id) = wanted.eraseDups ↔ ∀ id ∈ wanted, ¬IsOvershadowed available id) := by
  -- Every wanted id picks a role, and the function is that choice.
  have choice : ∀ id, ∃ role, id ∈ wanted → pickedRole? available id = some role ∧
      (role.id = id ↔ ¬IsOvershadowed available id) := by
    intro id
    by_cases asked : id ∈ wanted
    · obtain ⟨role, picked⟩ := pickedRole?_of_id distinct (known id asked)
      exact ⟨role, fun _ => picked⟩
    · exact ⟨default, fun h => absurd h asked⟩
  choose pick picked using choice
  have selected := selectRoles_of_picked fun id asked => (picked id asked).1
  have chosen : grantedRoles available (some wanted) = .ok ((wanted.map pick).foldl withRole []) := by
    simp only [grantedRoles, selected]
  have owned := mem_of_grantedRoles chosen
  have ids := ids_foldl_withRole (wanted.map pick)
  have picks : wanted.filterMap (pickedRole? available) = wanted.map pick := by
    rw [List.filterMap_congr (g := some ∘ pick) fun id asked => (picked id asked).1,
      List.filterMap_eq_map]
  generalize (wanted.map pick).foldl withRole [] = granted at chosen owned ids
  refine ⟨granted, m.withApiToken (p.newRecord o expiresAt description) (granted.map (·.id)),
    ?_, ?_, owned, ?_, ?_, ?_⟩
  · rw [Principal.runOn_generateApiToken, session, future, assigned, chosen]
    rfl
  · have stored : (m.withApiToken (p.newRecord o expiresAt description)
        (granted.map (·.id))).apiTokenRoles.find? o.apiTokenId = some (granted.map (·.id)) := by
      rw [Memory.find?_withApiToken_roles]
      exact if_pos rfl
    rw [stored]
    refine Memory.rolesOf_ids fun role hrole => ?_
    have listed : role ∈ m.rolesOf (m.assignments.find? p.userId) := assigned ▸ owned role hrole
    exact Memory.find?_of_mem_rolesOf listed
  · rw [ids, picks]
  · rw [ids]
    exact nodup_eraseDups _
  · rw [ids, List.map_map, eraseDups_map_eq_iff]
    exact forall₂_congr fun id asked => (picked id asked).2

/-- Alice is an operator, and the name of the operators is the id of the viewers. -/
def operatorSeed : Store.Seed :=
  ⟨[⟨⟨"ops", "viewer", ""⟩, []⟩, ⟨⟨"viewer", "Viewers", ""⟩, []⟩],
    [⟨alice none, false, ["ops", "viewer"]⟩]⟩

/-- Alice's token for the viewers is one for the operators. -/
theorem aliceErrand_overshadowed :
    aliceSession.isApiToken = false ∧ (none : Option Time).any (· ≤ aliceErrand.now) = false ∧
    (Memory.ofSeed operatorSeed).rolesOf
        ((Memory.ofSeed operatorSeed).assignments.find? aliceSession.userId) =
      [⟨"ops", "viewer", ""⟩, ⟨"viewer", "Viewers", ""⟩] ∧
    ["ops", "viewer"].Nodup ∧ (∀ id ∈ ["viewer"], id ∈ ["ops", "viewer"]) ∧
    ∃ granted, ∃ m' : Memory,
      (aliceSession.generateApiToken aliceErrand (some ["viewer"]) none "").runOn
          (Memory.ofSeed operatorSeed) =
        (.ok (Principal.newToken aliceErrand none "" granted), m') ∧
      m'.rolesOf (m'.apiTokenRoles.find? aliceErrand.apiTokenId) = granted ∧
      granted.map (·.id) = ["ops"] := by
  have assigned : (Memory.ofSeed operatorSeed).rolesOf
      ((Memory.ofSeed operatorSeed).assignments.find? aliceSession.userId) =
        [⟨"ops", "viewer", ""⟩, ⟨"viewer", "Viewers", ""⟩] := by rfl
  refine ⟨rfl, rfl, assigned, by decide, by decide, ?_⟩
  obtain ⟨granted, m', made, stored, -, ids, -⟩ := generateApiToken_of_ids aliceSession aliceErrand
    ["viewer"] none "" rfl rfl assigned (by decide) (by decide)
  exact ⟨granted, m', made, stored, ids⟩

end Gatehouse.Access
