import Gatehouse.Proofs.Store.Exchange
import Gatehouse.Store.Memory

/-!
# Recovery codes in the store

The store in memory keeps for each user the digests of the recovery codes that the user has left.
Taking a code deletes its digest and nothing else, and only adding a code brings one back.

Main definitions:

- `Memory.recoveryDigests` and `Memory.codesLeft`: the codes that a user has left.
- `Exchange.taken?`: the code that is taken with a query.

Main results:

- Theorem `Memory.mem_recoveryDigests_taken` and theorem `Memory.takeRecoveryCode_of_notMem`: what
  taking a code does.
- Theorem `Memory.codesLeft_answer`: a query takes a code or leaves it.
- Theorem `Memory.codesLeft_addRecoveryCode`: a code that is added while it is absent counts as new.
-/

namespace Gatehouse

/-- Putting in what is there already changes nothing. -/
theorem putEntry_eq_self {α : Type} {name : String} {datum : α} {entries : List (String × α)}
    (h : entries.find? (·.1 == name) = some (name, datum)) :
    putEntry name datum entries = entries := by
  induction entries with
  | nil => cases h
  | cons e rest ih =>
      obtain ⟨n, d⟩ := e
      by_cases hn : n = name
      · rw [List.find?_cons_of_pos (by simpa using hn)] at h
        rw [putEntry, if_pos hn, Option.some.inj h, hn]
      · rw [List.find?_cons_of_neg (by simpa using hn)] at h
        rw [putEntry, if_neg hn, ih h]

theorem Table.put_eq_self {α : Type} {t : Table α} {name : String} {datum : α}
    (h : t.find? name = some datum) : t.put name datum = t := by
  obtain ⟨⟨n, d⟩, found, rfl⟩ := Option.map_eq_some_iff.1 h
  obtain rfl : n = name := by simpa using List.find?_some found
  simp only [put, putEntry_eq_self found]

namespace Store

/-- The user and the digest of the recovery code that is taken with a query, if one is. -/
def Exchange.taken? : Exchange → Option (String × String)
  | ⟨.takeRecoveryCode userId digest, .ok true⟩ => some (userId, digest)
  | _ => none

namespace Memory

variable {m m' : Memory} {userId digest user' digest' : String}

/-- The digests of the recovery codes that a user has left. -/
def recoveryDigests (m : Memory) (userId : String) : List String :=
  (m.recoveryCodes.find? userId).getD []

/-- How many times a user has a code left: once or not at all. -/
def codesLeft (m : Memory) (code : String × String) : Nat :=
  if code.2 ∈ m.recoveryDigests code.1 then 1 else 0

/-! ## Taking codes -/

/-- The digest of a recovery code is gone once the code was taken. -/
theorem takeRecoveryCode_true {m m' : Memory} {userId digest : String}
    (h : m.takeRecoveryCode userId digest = (true, m')) :
    digest ∈ m.recoveryDigests userId ∧ digest ∉ m'.recoveryDigests userId := by
  unfold takeRecoveryCode at h
  split at h
  · rename_i digests found
    simp only [Prod.mk.injEq] at h
    obtain ⟨present, rfl⟩ := h
    refine ⟨?_, ?_⟩
    · rw [recoveryDigests, found]
      simpa using present
    · rw [recoveryDigests, Table.find?_put_self]
      simp
  · cases h

/-- Was there a code to take? -/
theorem takeRecoveryCode_fst (m : Memory) (userId digest : String) :
    (m.takeRecoveryCode userId digest).1 = decide (digest ∈ m.recoveryDigests userId) := by
  unfold takeRecoveryCode recoveryDigests
  cases m.recoveryCodes.find? userId with
  | none => simp
  | some digests => simp [List.contains_eq_mem]

/-- Taking a code deletes just its digest, and only for the user. -/
theorem mem_recoveryDigests_taken :
    digest' ∈ (m.takeRecoveryCode userId digest).2.recoveryDigests user' ↔
      digest' ∈ m.recoveryDigests user' ∧ (user', digest') ≠ (userId, digest) := by
  unfold takeRecoveryCode
  cases found : m.recoveryCodes.find? userId with
  | none =>
      refine ⟨fun h => ⟨h, ?_⟩, And.left⟩
      rintro ⟨⟩
      simp [recoveryDigests, found] at h
  | some digests =>
      by_cases same : user' = userId
      · subst same
        simp [recoveryDigests, found]
      · simp [recoveryDigests, Table.find?_put_of_ne _ same, same]

/-- Taking a code leaves everything but the recovery codes alone. -/
theorem takeRecoveryCode_snd (m : Memory) (userId digest : String) :
    (m.takeRecoveryCode userId digest).2 =
      { m with recoveryCodes := (m.takeRecoveryCode userId digest).2.recoveryCodes } := by
  unfold takeRecoveryCode
  split <;> rfl

/-- Where there is no code to take, nothing changes. -/
theorem takeRecoveryCode_of_notMem (absent : digest ∉ m.recoveryDigests userId) :
    m.takeRecoveryCode userId digest = (false, m) := by
  unfold takeRecoveryCode
  cases found : m.recoveryCodes.find? userId with
  | none => rfl
  | some digests =>
      rw [recoveryDigests, found] at absent
      have kept : digests.filter (· != digest) = digests := by
        rw [List.filter_eq_self]
        rintro d hd
        simpa using fun same : d = digest => absent (same ▸ hd)
      simp only [kept, Table.put_eq_self found]
      simpa using absent

/-! ## Adding codes -/

/-- Adding a code adds just its digest, and only for the user. -/
theorem mem_recoveryDigests_added :
    digest' ∈ (m.addRecoveryCode userId digest).recoveryDigests user' ↔
      digest' ∈ m.recoveryDigests user' ∨ (user', digest') = (userId, digest) := by
  unfold addRecoveryCode recoveryDigests Table.change
  by_cases same : user' = userId
  · subst same
    simp only [Table.find?_put_self, Option.getD_some, Prod.mk.injEq, true_and]
    split
    · rename_i present
      refine ⟨.inl, fun h => h.elim id ?_⟩
      rintro rfl
      simpa using present
    · simp
  · simp [Table.find?_put_of_ne _ same, same]

/-! ## Counting codes -/

/-- The number of codes left is that of another store with the same codes. -/
theorem codesLeft_congr (h : m'.recoveryCodes = m.recoveryCodes) (code : String × String) :
    m'.codesLeft code = m.codesLeft code := by
  rw [codesLeft, recoveryDigests, h, codesLeft, recoveryDigests]

/-- A code that is taken was left and is left no longer. -/
theorem codesLeft_takeRecoveryCode (m : Memory) (userId digest : String) (code : String × String) :
    (Exchange.taken? ⟨.takeRecoveryCode userId digest,
        .ok (m.takeRecoveryCode userId digest).1⟩).toList.count code +
      (m.takeRecoveryCode userId digest).2.codesLeft code = m.codesLeft code := by
  by_cases present : digest ∈ m.recoveryDigests userId
  · have taken : (m.takeRecoveryCode userId digest).1 = true := by
      rw [takeRecoveryCode_fst, decide_eq_true present]
    rw [taken, codesLeft, codesLeft]
    simp only [mem_recoveryDigests_taken]
    by_cases same : code = (userId, digest)
    · subst same
      simp [Exchange.taken?, present]
    · simp [Exchange.taken?, same, Ne.symm same]
  · rw [takeRecoveryCode_of_notMem present]
    simp [Exchange.taken?]

/-- A query takes a code or leaves it. -/
theorem codesLeft_answer (m : Memory) (q : Query) (code : String × String) :
    (Exchange.taken? ⟨q, (m.answer q).1⟩).toList.count code + (m.answer q).2.codesLeft code =
      m.codesLeft code := by
  have same {q : Query} (untaken : Exchange.taken? ⟨q, (m.answer q).1⟩ = none)
      (kept : (m.answer q).2.recoveryCodes = m.recoveryCodes) :
      (Exchange.taken? ⟨q, (m.answer q).1⟩).toList.count code + (m.answer q).2.codesLeft code =
        m.codesLeft code := by
    rw [untaken, codesLeft_congr kept]
    exact Nat.zero_add _
  cases q with
  | takeRecoveryCode userId digest => exact codesLeft_takeRecoveryCode m userId digest code
  | addApiToken token roleIds =>
      refine same rfl ?_
      show (m.addApiToken token roleIds).2.recoveryCodes = m.recoveryCodes
      unfold addApiToken
      split <;> rfl
  | removeApiToken tokenId userId =>
      refine same rfl ?_
      show (m.removeApiToken tokenId userId).2.recoveryCodes = m.recoveryCodes
      unfold removeApiToken
      split <;> rfl
  | _ => exact same rfl rfl

/-- A code that is added while it is absent counts as new. -/
theorem codesLeft_addRecoveryCode (m : Memory) (userId digest : String)
    (code : String × String) :
    (m.addRecoveryCode userId digest).codesLeft code = m.codesLeft code +
      if digest ∈ m.recoveryDigests userId then 0 else [(userId, digest)].count code := by
  simp only [codesLeft, mem_recoveryDigests_added]
  by_cases same : code = (userId, digest)
  · subst same
    by_cases present : digest ∈ m.recoveryDigests userId <;> simp [present]
  · simp [same, Ne.symm same]

end Memory

end Store

end Gatehouse
