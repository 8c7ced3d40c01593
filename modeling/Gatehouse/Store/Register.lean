import Gatehouse.Table

/-!
# Registers

A register is a table whose data carry their own names: each datum stands under the name that it
has itself.

Main definitions: `Register`, `Register.find?`, `Register.put`, `Register.filter` and
`Register.erase`.

Main results:

- `Register.nameOf_of_find?`: what is found under a name has that name.
- `Register.mem_data_iff`: the data are what is found under the own name.
- `Register.find?_put`, `Register.find?_filter` and `Register.find?_erase`: what is found after a
  change.
-/

namespace Gatehouse

/-- What stands in a list after a datum has been put in. -/
theorem mem_putEntry {α : Type} {name : String} {datum : α} {entries : List (String × α)}
    {e : String × α} (h : e ∈ putEntry name datum entries) : e = (name, datum) ∨ e ∈ entries := by
  induction entries with
  | nil => exact .inl (by simpa [putEntry] using h)
  | cons first rest ih =>
      obtain ⟨n, d⟩ := first
      by_cases hn : n = name
      · simp only [putEntry, if_pos hn, List.mem_cons] at h
        rcases h with rfl | h
        · exact .inl (by rw [hn])
        · exact .inr (List.mem_cons_of_mem _ h)
      · simp only [putEntry, if_neg hn, List.mem_cons] at h
        rcases h with rfl | h
        · exact .inr List.mem_cons_self
        · rcases ih h with h | h
          · exact .inl h
          · exact .inr (List.mem_cons_of_mem _ h)

/-- Data that stand under their own names. -/
structure Register (α : Type) (nameOf : α → String) where
  table : Table α
  /-- Each datum has the name that it stands under. -/
  own : ∀ e ∈ table.entries, nameOf e.2 = e.1
  deriving Repr

namespace Register

variable {α : Type} {nameOf : α → String}

/-- No data. -/
def empty : Register α nameOf := ⟨.empty, by simp [Table.empty]⟩

/-- The datum with a name. -/
def find? (r : Register α nameOf) (name : String) : Option α :=
  r.table.find? name

/-- Is there a datum with the name? -/
def contains (r : Register α nameOf) (name : String) : Bool :=
  r.table.contains name

/-- The data in their order. -/
def data (r : Register α nameOf) : List α :=
  r.table.data

/-- The number of data. -/
def size (r : Register α nameOf) : Nat :=
  r.table.size

/-- Put a datum in, in the place of the one with the same name. -/
def put (r : Register α nameOf) (datum : α) : Register α nameOf :=
  ⟨r.table.put (nameOf datum) datum, fun e he => by
    rcases mem_putEntry he with rfl | he
    · rfl
    · exact r.own e he⟩

/-- Keep the data that pass a test. -/
def filter (r : Register α nameOf) (keep : α → Bool) : Register α nameOf :=
  ⟨r.table.filter fun _ => keep, fun e he => r.own e (List.mem_filter.1 he).1⟩

/-- Take the datum with a name out. -/
def erase (r : Register α nameOf) (name : String) : Register α nameOf :=
  ⟨r.table.erase name, fun e he => r.own e (List.mem_filter.1 he).1⟩

/-! ## What is found -/

/-- What is found under a name has that name. -/
theorem nameOf_of_find? {r : Register α nameOf} {name : String} {datum : α}
    (h : r.find? name = some datum) : nameOf datum = name := by
  obtain ⟨e, he, rfl⟩ := Option.map_eq_some_iff.1 h
  have hname : e.1 = name := by simpa using List.find?_some he
  rw [r.own e (List.mem_of_find?_eq_some he), hname]

/-- A datum is found under its own name. -/
theorem find?_of_mem_data {r : Register α nameOf} {datum : α} (h : datum ∈ r.data) :
    r.find? (nameOf datum) = some datum := by
  obtain ⟨e, he, rfl⟩ := List.mem_map.1 h
  rw [r.own e he]
  exact Table.find?_of_mem he

/-- The data are those that are found under their own names. -/
theorem mem_data_iff {r : Register α nameOf} {datum : α} :
    datum ∈ r.data ↔ r.find? (nameOf datum) = some datum := by
  constructor
  · exact find?_of_mem_data
  · intro h
    obtain ⟨e, he, rfl⟩ := Option.map_eq_some_iff.1 h
    exact List.mem_map.2 ⟨e, List.mem_of_find?_eq_some he, rfl⟩

theorem contains_eq_isSome (r : Register α nameOf) (name : String) :
    r.contains name = (r.find? name).isSome :=
  r.table.contains_eq_isSome name

theorem find?_put (r : Register α nameOf) (datum : α) (name : String) :
    (r.put datum).find? name = if name = nameOf datum then some datum else r.find? name := by
  split
  · rename_i h
    subst h
    exact r.table.find?_put_self _ _
  · rename_i h
    exact r.table.find?_put_of_ne h _

theorem find?_filter (r : Register α nameOf) (keep : α → Bool) (name : String) :
    (r.filter keep).find? name = (r.find? name).filter keep :=
  r.table.find?_filter _ _

theorem find?_erase (r : Register α nameOf) (name x : String) :
    (r.erase name).find? x = if x = name then none else r.find? x := by
  split
  · rename_i h
    subst h
    exact r.table.find?_erase_self _
  · rename_i h
    exact r.table.find?_erase_of_ne h

end Register

end Gatehouse
