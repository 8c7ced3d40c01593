import Gatehouse.Proofs.Store.ApiTokens

/-!
# API tokens in the store - Listing

The listing of a user's API tokens is sorted, so it is known as soon as it is known which records
are the user's.  In what order the store has got them does not matter.

Main results:

- Theorem `Memory.apiTokensOf_sorted`: older tokens come first, and of equal age the one with the
  smaller id.
- Theorem `Memory.apiTokensOf_congr`: stores with the same records of a user list the same.
- Theorem `Memory.rolesOf_ids`: roles that the store knows are found again by their ids.
-/

namespace Gatehouse

/-- The names of the data are those that they stand under. -/
theorem Register.map_nameOf_data {α : Type} {nameOf : α → String} (r : Register α nameOf) :
    r.data.map nameOf = r.table.entries.map (·.1) := by
  rw [Register.data, Table.data, List.map_map]
  exact List.map_congr_left r.own

/-- No two data of a register have one name. -/
theorem Register.nodup_names {α : Type} {nameOf : α → String} (r : Register α nameOf) :
    (r.data.map nameOf).Nodup := by
  rw [map_nameOf_data]
  exact r.table.once

/-- Data of a register with one name are one. -/
theorem Register.eq_of_nameOf_eq {α : Type} {nameOf : α → String} {r : Register α nameOf} {a b : α}
    (ha : a ∈ r.data) (hb : b ∈ r.data) (same : nameOf a = nameOf b) : a = b := by
  rw [mem_data_iff] at ha hb
  rw [same] at ha
  exact Option.some.inj (ha.symm.trans hb)

namespace Store.Memory

variable {m m' : Memory} {userId digest : String} {record s t r : ApiTokenRecord}

/-- The store has neither a token nor the roles of one. -/
def HasNoApiTokens (m : Memory) : Prop :=
  m.apiTokens.data = [] ∧ ∀ id, m.apiTokenRoles.find? id = none

/-! ## The order of a listing -/

theorem isListedBefore_iff :
    isListedBefore s t = true ↔
      s.createdAt < t.createdAt ∨ s.createdAt = t.createdAt ∧ s.id ≤ t.id := by
  have atMost : s.id < t.id ∨ s.id = t.id ↔ s.id ≤ t.id := by
    constructor
    · rintro (less | same)
      · exact Std.le_of_lt less
      · exact Std.le_of_eq same
    · intro le
      by_cases less : s.id < t.id
      · exact .inl less
      · exact .inr (String.le_antisymm le (String.not_lt.1 less))
  simp only [isListedBefore, Bool.or_eq_true, Bool.and_eq_true, decide_eq_true_eq, beq_iff_eq,
    atMost]

theorem isListedBefore_trans (h : isListedBefore r s = true) (h' : isListedBefore s t = true) :
    isListedBefore r t = true := by
  rw [isListedBefore_iff] at *
  rcases h with h | ⟨h, le⟩ <;> rcases h' with h' | ⟨h', le'⟩
  · exact .inl (Int.lt_trans h h')
  · exact .inl (h' ▸ h)
  · exact .inl (h ▸ h')
  · exact .inr ⟨h.trans h', String.le_trans le le'⟩

theorem isListedBefore_total (s t : ApiTokenRecord) :
    (isListedBefore s t || isListedBefore t s) = true := by
  rw [Bool.or_eq_true, isListedBefore_iff, isListedBefore_iff]
  rcases Int.lt_trichotomy s.createdAt t.createdAt with older | same | newer
  · exact .inl (.inl older)
  · rcases String.le_total s.id t.id with le | le
    · exact .inl (.inr ⟨same, le⟩)
    · exact .inr (.inr ⟨same.symm, le⟩)
  · exact .inr (.inl newer)

/-! ## What is listed -/

/-- The records of a user are listed and no others. -/
theorem mem_apiTokensOf :
    record ∈ m.apiTokensOf userId ↔ record ∈ m.apiTokens.data ∧ record.userId = userId := by
  rw [apiTokensOf, (List.mergeSort_perm _ _).mem_iff, List.mem_filter, beq_iff_eq]

/-- No two records of a listing have one id. -/
theorem nodup_ids_apiTokensOf (m : Memory) (userId : String) :
    ((m.apiTokensOf userId).map (·.id)).Nodup := by
  have filtered : ((m.apiTokens.data.filter (·.userId == userId)).map (·.id)).Nodup :=
    m.apiTokens.nodup_names.sublist (List.filter_sublist.map _)
  exact ((List.mergeSort_perm _ isListedBefore).map (·.id)).nodup_iff.2 filtered

/-- No record is listed twice. -/
theorem nodup_apiTokensOf (m : Memory) (userId : String) : (m.apiTokensOf userId).Nodup := by
  have distinct := List.pairwise_map.1 (nodup_ids_apiTokensOf m userId)
  refine distinct.imp ?_
  rintro s t other rfl
  exact other rfl

/-- Older tokens come first, and of equal age the one with the smaller id. -/
theorem apiTokensOf_sorted (m : Memory) (userId : String) :
    (m.apiTokensOf userId).Pairwise fun s t =>
      s.createdAt < t.createdAt ∨ s.createdAt = t.createdAt ∧ s.id < t.id := by
  have sorted : (m.apiTokensOf userId).Pairwise fun s t => isListedBefore s t = true := by
    apply List.pairwise_mergeSort
    · intro r s t h h'
      exact isListedBefore_trans h h'
    · exact isListedBefore_total
  have distinct : (m.apiTokensOf userId).Pairwise fun s t => s.id ≠ t.id :=
    List.pairwise_map.1 (nodup_ids_apiTokensOf m userId)
  refine (sorted.and distinct).imp ?_
  rintro s t ⟨before, other⟩
  rcases isListedBefore_iff.1 before with older | ⟨same, le⟩
  · exact .inl older
  · refine .inr ⟨same, ?_⟩
    by_cases less : s.id < t.id
    · exact less
    · exact absurd (String.le_antisymm le (String.not_lt.1 less)) other

/-- Stores with the same records of a user list the same. -/
theorem apiTokensOf_congr
    (same : ∀ record, record.userId = userId →
      (record ∈ m.apiTokens.data ↔ record ∈ m'.apiTokens.data)) :
    m.apiTokensOf userId = m'.apiTokensOf userId := by
  have perm : (m.apiTokensOf userId).Perm (m'.apiTokensOf userId) := by
    rw [List.perm_ext_iff_of_nodup (nodup_apiTokensOf m userId) (nodup_apiTokensOf m' userId)]
    intro record
    rw [mem_apiTokensOf, mem_apiTokensOf]
    exact and_congr_left (same record)
  have asymm (s t : ApiTokenRecord)
      (before : s.createdAt < t.createdAt ∨ s.createdAt = t.createdAt ∧ s.id < t.id)
      (after : t.createdAt < s.createdAt ∨ t.createdAt = s.createdAt ∧ t.id < s.id) : s = t := by
    rcases before with older | ⟨same, less⟩ <;> rcases after with newer | ⟨same', more⟩
    · exact absurd (Int.lt_trans older newer) (Int.lt_irrefl _)
    · exact absurd (same' ▸ older) (Int.lt_irrefl _)
    · exact absurd (same ▸ newer) (Int.lt_irrefl _)
    · exact absurd (String.lt_trans less more) (String.lt_irrefl _)
  exact perm.eq_of_pairwise (fun s t _ _ => asymm s t) (apiTokensOf_sorted m userId)
    (apiTokensOf_sorted m' userId)

/-! ## What is found -/

/-- The record with a digest that no other record has is found by it. -/
theorem find?_digest_eq_some
    (once : ∀ s ∈ m.apiTokens.data, ∀ t ∈ m.apiTokens.data,
      s.digest = digest → t.digest = digest → s = t) :
    m.apiTokens.data.find? (·.digest == digest) = some record ↔
      record ∈ m.apiTokens.data ∧ record.digest = digest := by
  constructor
  · intro found
    exact ⟨List.mem_of_find?_eq_some found, by simpa using List.find?_some found⟩
  · rintro ⟨stored, named⟩
    cases found : m.apiTokens.data.find? (·.digest == digest) with
    | none =>
        rw [List.find?_eq_none] at found
        exact absurd (by simpa using named) (found record stored)
    | some other =>
        have digested : other.digest = digest := by simpa using List.find?_some found
        rw [once other (List.mem_of_find?_eq_some found) record stored digested named]

/-- The roles that are found under some ids are found under their own. -/
theorem find?_of_mem_rolesOf {ids : Option (List String)} {role : Role}
    (h : role ∈ m.rolesOf ids) : m.roles.find? role.id = some role := by
  obtain ⟨id, -, found⟩ := List.mem_filterMap.1 h
  rw [Register.nameOf_of_find? found]
  exact found

/-- Roles that the store knows are found again by their ids. -/
theorem rolesOf_ids {roles : List Role} (known : ∀ role ∈ roles, m.roles.find? role.id = some role) :
    m.rolesOf (some (roles.map (·.id))) = roles := by
  rw [rolesOf, Option.getD_some, List.filterMap_map]
  induction roles with
  | nil => rfl
  | cons role roles ih =>
      rw [List.forall_mem_cons] at known
      have first : (m.roles.find? ∘ fun role : Role => role.id) role = some role := known.1
      rw [List.filterMap_cons_some first, ih known.2]

end Store.Memory

end Gatehouse
