/-!
# Tables

A table holds at most one datum under each name, in the order in which the names were first put
in.

Main definitions: `Table`, `Table.find?`, `Table.put`, `Table.change`, `Table.erase` and
`Table.filter`.

Main results:

- `Table.find?_put_self` and `Table.find?_put_of_ne`: a name holds what was put under it last.
- `Table.find?_erase_self` and `Table.find?_erase_of_ne`: an erased name holds nothing.
- `Table.find?_filter`: a name keeps its datum when the datum passes the test.
-/

namespace Gatehouse

/-- Put a datum under a name: in the place of the one that is there, else at the end. -/
def putEntry {α : Type} (name : String) (datum : α) : List (String × α) → List (String × α)
  | [] => [(name, datum)]
  | (n, d) :: rest => if n = name then (n, datum) :: rest else (n, d) :: putEntry name datum rest

/-- The names after a datum has been put in. -/
theorem mem_names_putEntry {α : Type} (name : String) (datum : α) (x : String)
    (entries : List (String × α)) :
    x ∈ (putEntry name datum entries).map (·.1) ↔ x = name ∨ x ∈ entries.map (·.1) := by
  induction entries with
  | nil => simp [putEntry]
  | cons e rest ih =>
    obtain ⟨n, d⟩ := e
    by_cases h : n = name
    · subst h
      simp [putEntry]
    · simp only [putEntry, if_neg h, List.map_cons, List.mem_cons, ih]
      constructor
      · rintro (h | h | h) <;> simp [h]
      · rintro (h | h | h) <;> simp [h]

/-- No name stands twice after a datum has been put in. -/
theorem nodup_putEntry {α : Type} (name : String) (datum : α) {entries : List (String × α)}
    (h : (entries.map (·.1)).Nodup) : ((putEntry name datum entries).map (·.1)).Nodup := by
  induction entries with
  | nil => simp [putEntry]
  | cons e rest ih =>
    obtain ⟨n, d⟩ := e
    simp only [List.map_cons, List.nodup_cons] at h
    by_cases hn : n = name
    · subst hn
      simpa [putEntry] using h
    · simp only [putEntry, if_neg hn, List.map_cons, List.nodup_cons]
      refine ⟨?_, ih h.2⟩
      rw [mem_names_putEntry]
      rintro (h' | h')
      · exact hn h'
      · exact h.1 h'

/-- Data under names. -/
structure Table (α : Type) where
  entries : List (String × α)
  /-- Each name stands once. -/
  once : (entries.map (·.1)).Nodup
  deriving DecidableEq, Repr

namespace Table

variable {α : Type}

/-- No data. -/
def empty : Table α := ⟨[], by simp⟩

instance : Inhabited (Table α) := ⟨empty⟩

/-- The datum under a name. -/
def find? (t : Table α) (name : String) : Option α :=
  (t.entries.find? (·.1 == name)).map (·.2)

/-- Is there a datum under the name? -/
def contains (t : Table α) (name : String) : Bool :=
  t.entries.any (·.1 == name)

/-- The data in their order. -/
def data (t : Table α) : List α :=
  t.entries.map (·.2)

/-- The number of data. -/
def size (t : Table α) : Nat :=
  t.entries.length

/-- Put a datum under a name, in the place of the one that is there. -/
def put (t : Table α) (name : String) (datum : α) : Table α :=
  ⟨putEntry name datum t.entries, nodup_putEntry name datum t.once⟩

/-- Put what `f` makes of the datum under a name in its place. -/
def change (t : Table α) (name : String) (f : Option α → α) : Table α :=
  t.put name (f (t.find? name))

/-- Keep the data that pass a test. -/
def filter (t : Table α) (keep : String → α → Bool) : Table α :=
  ⟨t.entries.filter fun e => keep e.1 e.2, t.once.sublist (List.filter_sublist.map _)⟩

/-- Take the datum under a name out. -/
def erase (t : Table α) (name : String) : Table α :=
  t.filter fun n _ => n != name

/-- The table of a list; of entries with one name the last one counts. -/
def ofList (entries : List (String × α)) : Table α :=
  entries.foldl (fun t e => t.put e.1 e.2) empty

/-! ## What is found after a change -/

theorem find?_empty (name : String) : (empty : Table α).find? name = none := rfl

theorem find?_putEntry_self (name : String) (datum : α) (entries : List (String × α)) :
    (putEntry name datum entries).find? (·.1 == name) = some (name, datum) := by
  induction entries with
  | nil => simp [putEntry]
  | cons e rest ih =>
    obtain ⟨n, d⟩ := e
    by_cases h : n = name
    · simp [putEntry, h]
    · simp [putEntry, h, ih]

theorem find?_putEntry_of_ne {name x : String} (h : x ≠ name) (datum : α)
    (entries : List (String × α)) :
    (putEntry name datum entries).find? (·.1 == x) = entries.find? (·.1 == x) := by
  induction entries with
  | nil => simp [putEntry, h.symm]
  | cons e rest ih =>
    obtain ⟨n, d⟩ := e
    by_cases hn : n = name
    · subst hn
      simp [putEntry, h.symm]
    · by_cases hx : n = x
      · subst hx
        simp [putEntry, hn]
      · simp [putEntry, hn, hx, ih]

@[simp] theorem find?_put_self (t : Table α) (name : String) (datum : α) :
    (t.put name datum).find? name = some datum := by
  simp [find?, put, find?_putEntry_self]

theorem find?_put_of_ne (t : Table α) {name x : String} (h : x ≠ name) (datum : α) :
    (t.put name datum).find? x = t.find? x := by
  simp [find?, put, find?_putEntry_of_ne h]

/-- A name that no entry has is not found. -/
theorem find?_eq_none_of_absent {name : String} {entries : List (String × α)}
    (h : name ∉ entries.map (·.1)) : entries.find? (·.1 == name) = none := by
  rw [List.find?_eq_none]
  intro e he heq
  exact h (List.mem_map.2 ⟨e, he, by simpa using heq⟩)

/-- An entry is found under its name. -/
theorem find?_of_mem_entries {name : String} {datum : α} {entries : List (String × α)}
    (once : (entries.map (·.1)).Nodup) (h : (name, datum) ∈ entries) :
    (entries.find? (·.1 == name)).map (·.2) = some datum := by
  induction entries with
  | nil => cases h
  | cons e rest ih =>
    rw [List.map_cons, List.nodup_cons] at once
    rcases List.mem_cons.1 h with rfl | h
    · simp
    · have other : e.1 ≠ name := by
        rintro rfl
        exact once.1 (List.mem_map.2 ⟨_, h, rfl⟩)
      rw [List.find?_cons_of_neg (by simpa using other)]
      exact ih once.2 h

/-- A datum that stands in the table is found under its name. -/
theorem find?_of_mem {t : Table α} {name : String} {datum : α} (h : (name, datum) ∈ t.entries) :
    t.find? name = some datum :=
  find?_of_mem_entries t.once h

theorem find?_filter_entries {keep : String → α → Bool} {entries : List (String × α)}
    (h : (entries.map (·.1)).Nodup) (name : String) :
    ((entries.filter fun e => keep e.1 e.2).find? (·.1 == name)).map (·.2) =
      ((entries.find? (·.1 == name)).map (·.2)).filter (keep name) := by
  induction entries with
  | nil => rfl
  | cons e rest ih =>
    obtain ⟨n, d⟩ := e
    simp only [List.map_cons, List.nodup_cons] at h
    have step := ih h.2
    by_cases hn : n = name
    · subst hn
      have absent := find?_eq_none_of_absent h.1
      rw [absent] at step
      cases hk : keep n d with
      | true =>
        rw [List.filter_cons_of_pos (by simpa using hk), List.find?_cons_of_pos (by simp),
          List.find?_cons_of_pos (by simp)]
        simp [Option.filter, hk]
      | false =>
        rw [List.filter_cons_of_neg (by simp [hk]), step, List.find?_cons_of_pos (by simp)]
        simp [Option.filter, hk]
    · rw [List.find?_cons_of_neg (by simpa using hn), ← step]
      cases hk : keep n d with
      | true =>
        rw [List.filter_cons_of_pos (by simpa using hk), List.find?_cons_of_neg (by simpa using hn)]
      | false => rw [List.filter_cons_of_neg (by simp [hk])]

theorem find?_filter (t : Table α) (keep : String → α → Bool) (name : String) :
    (t.filter keep).find? name = (t.find? name).filter (keep name) :=
  find?_filter_entries t.once name

@[simp] theorem find?_erase_self (t : Table α) (name : String) :
    (t.erase name).find? name = none := by
  rw [erase, find?_filter]
  cases t.find? name <;> simp [Option.filter]

theorem find?_erase_of_ne (t : Table α) {name x : String} (h : x ≠ name) :
    (t.erase name).find? x = t.find? x := by
  rw [erase, find?_filter]
  cases t.find? x <;> simp [Option.filter, h]

/-- A name is in the table when a datum is found under it. -/
theorem contains_eq_isSome (t : Table α) (name : String) :
    t.contains name = (t.find? name).isSome := by
  rw [contains, find?, Option.isSome_map, List.isSome_find?]

end Table

end Gatehouse
