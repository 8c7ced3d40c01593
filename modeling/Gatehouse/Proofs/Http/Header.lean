import Gatehouse.Http.Document
import Gatehouse.Http.Header

/-!
# Header fields - Lines and how often they stand

A name may stand on several lines, so a line counts as often as it stands.  Appending keeps all lines
that there are; extending gives up those whose names the other header has.

Main definitions:

- `line?`: the line that a name and a text make.
- `Headers.without`: a header without the lines of some names.
- `sentLines`: the lines of a header as they are sent, with names in any case.

Main results:

- Theorem `Headers.lines_foldl_appendText`: what stands in a header after some appending.
- Theorem `Headers.count_extend`: how often a line stands in an extended header.
- Theorem `Headers.first?_append_of_ne`: appending leaves the lines of other names alone.
- Theorem `Headers.lines_of_ofJson?`: a header is read with its names in lower case.
-/

namespace Gatehouse.Http

/-- The line that a name and a text make, if both may stand in a header. -/
def line? (name text : String) : Option (String × Bytes) :=
  (fieldName? name).bind fun name => (fieldValue? (utf8 text)).map fun value => (name, value)

/-- A header value has the bytes that it is made of. -/
theorem eq_of_fieldValue? {bs value : Bytes} (h : fieldValue? bs = some value) : value = bs := by
  rw [fieldValue?] at h
  split at h
  · exact (Option.some.inj h).symm
  · cases h

/-- A line that can be made has the name in lower case and the bytes of the text. -/
theorem of_line?_eq_some {name text : String} {line : String × Bytes}
    (h : line? name text = some line) : fieldName? name = some line.1 ∧ line.2 = utf8 text := by
  obtain ⟨name', named, made⟩ := Option.bind_eq_some_iff.1 h
  obtain ⟨value, standing, rfl⟩ := Option.map_eq_some_iff.1 made
  exact ⟨named, eq_of_fieldValue? standing⟩

namespace Headers

variable {h other : Headers} {line : String × Bytes}

/-- Appending adds the line that a name and a text make, if they make one. -/
theorem lines_appendText (h : Headers) (name text : String) :
    (h.appendText name text).lines = h.lines ++ (line? name text).toList := by
  unfold appendText line?
  cases fieldName? name with
  | none => simp
  | some name => cases fieldValue? (utf8 text) <;> simp [append]

/-- Appending several lines adds those that can be made, in their order. -/
theorem lines_foldl_appendText (h : Headers) (entries : List (String × String)) :
    (entries.foldl (fun headers (name, text) => headers.appendText name text) h).lines =
      h.lines ++ entries.filterMap fun entry => line? entry.1 entry.2 := by
  induction entries generalizing h with
  | nil => simp
  | cons entry rest ih =>
      rw [List.foldl_cons, ih, lines_appendText, List.append_assoc, List.filterMap_cons]
      cases line? entry.1 entry.2 <;> rfl

/-- Appending a line adds a value of its name. -/
theorem values_append (h : Headers) (name : String) (value : Bytes) :
    (h.append name value).values name = h.values name ++ [value] := by
  simp [append, values]

/-- Appending a line leaves the lines of other names alone. -/
theorem values_append_of_ne {name x : String} (other : x ≠ name) (h : Headers) (value : Bytes) :
    (h.append name value).values x = h.values x := by
  have unnamed : (name == x) = false := by simpa using Ne.symm other
  simp [append, values, List.filter_append, unnamed]

theorem first?_append_of_ne {name x : String} (other : x ≠ name) (h : Headers) (value : Bytes) :
    (h.append name value).first? x = h.first? x := by
  rw [first?, values_append_of_ne other, first?]

/-- Without the lines of a name it does not matter whether one was appended. -/
theorem remove_append (h : Headers) (name : String) (value : Bytes) :
    (h.append name value).remove name = h.remove name := by
  simp [append, remove, List.filter_append]

/-- A name that stands on some line has a first value. -/
theorem first?_isSome (h : Headers) (name : String) : (h.first? name).isSome = h.contains name := by
  rw [Bool.eq_iff_iff, first?, values]
  simp [contains]

/-- The header without the lines of some names. -/
def without (h : Headers) (names : List String) : Headers :=
  ⟨h.lines.filter fun line => !names.contains line.1⟩

/-- The lines of other names stay. -/
theorem values_without {names : List String} {name : String} (other : name ∉ names) (h : Headers) :
    (h.without names).values name = h.values name := by
  rw [values, values, without, List.filter_filter]
  congr 1
  refine List.filter_congr fun line _ => ?_
  by_cases here : line.1 = name
  · simp [here, other]
  · simp [here]

theorem contains_iff (h : Headers) (name : String) :
    h.contains name = true ↔ ∃ line ∈ h.lines, line.1 = name := by
  simp [contains]

theorem contains_of_mem_values {name : String} {value : Bytes} (stands : value ∈ h.values name) :
    h.contains name = true := by
  obtain ⟨line, here, -⟩ := List.mem_map.1 stands
  obtain ⟨mem, named⟩ := List.mem_filter.1 here
  exact List.any_eq_true.2 ⟨line, mem, named⟩

/-- A line stands in an extended header as often as in the other header, where that has its name,
and else as often as before. -/
theorem count_extend (h other : Headers) (line : String × Bytes) :
    (h.extend other).lines.count line =
      if other.contains line.1 then other.lines.count line else h.lines.count line := by
  rw [extend, List.count_append]
  cases named : other.contains line.1 with
  | true =>
      have gone : line ∉ h.lines.filter fun line => !other.contains line.1 := by
        intro kept
        have unnamed := (List.mem_filter.1 kept).2
        simp [named] at unnamed
      rw [List.count_eq_zero.2 gone, if_pos rfl, Nat.zero_add]
  | false =>
      have absent : line ∉ other.lines := by
        intro stands
        have found := (other.contains_iff line.1).2 ⟨line, stands, rfl⟩
        cases named.symm.trans found
      have kept : (h.lines.filter fun line => !other.contains line.1).count line =
          h.lines.count line := List.count_filter (by simp [named])
      rw [kept, List.count_eq_zero.2 absent, Nat.add_zero, if_neg nofun]

/-- The values of a name in an extended header are those of the other header, where that has the name,
and else those from before. -/
theorem values_extend (h other : Headers) (name : String) :
    (h.extend other).values name =
      if other.contains name then other.values name else h.values name := by
  rw [values, extend, List.filter_append, List.map_append, List.filter_filter]
  cases named : other.contains name with
  | true =>
      have gone : h.lines.filter (fun line => line.1 == name && !other.contains line.1) = [] := by
        refine List.filter_eq_nil_iff.2 fun line _ kept => ?_
        obtain ⟨same, unnamed⟩ := Bool.and_eq_true_iff.1 kept
        rw [beq_iff_eq.1 same, named] at unnamed
        cases unnamed
      rw [gone, if_pos rfl]
      rfl
  | false =>
      have absent : other.lines.filter (·.1 == name) = [] := by
        refine List.filter_eq_nil_iff.2 fun line stands same => ?_
        have found := (other.contains_iff name).2 ⟨line, stands, beq_iff_eq.1 same⟩
        cases named.symm.trans found
      have kept : h.lines.filter (fun line => line.1 == name && !other.contains line.1) =
          h.lines.filter (·.1 == name) := by
        refine List.filter_congr fun line _ => ?_
        by_cases same : line.1 = name
        · simp [same, named]
        · simp [same]
      rw [absent, kept, if_neg nofun, List.map_nil, List.append_nil]
      rfl

end Headers

/-! ## Reading -/

/-- A line of a header as it is sent. -/
def sentLine? : Json.Value → Option (String × Bytes)
  | .array [.string name, value] => some (name, bytesOfJson value)
  | _ => none

/-- The lines of a header as they are sent, with names in any case. -/
def sentLines (v : Json.Value) : List (String × Bytes) :=
  v.items.filterMap sentLine?

/-- A line that may stand in a header is read with its name in lower case. -/
theorem sentLine?_of_lineOfJson? {v : Json.Value} {line : String × Bytes}
    (h : lineOfJson? v = some line) :
    (sentLine? v).map (fun sent => (Text.lowerAscii sent.1, sent.2)) = some line := by
  unfold lineOfJson? at h
  split at h
  · rename_i name value
    obtain ⟨lower, named, made⟩ := Option.bind_eq_some_iff.1 h
    obtain ⟨bytes, standing, same⟩ := Option.bind_eq_some_iff.1 made
    cases same
    rw [eq_of_fieldValue? standing]
    unfold fieldName? at named
    split at named
    · cases named
    · split at named
      · cases named
        rfl
      · cases named
  · cases h

/-- A header is read with its names in lower case. -/
theorem Headers.lines_of_ofJson? {v : Json.Value} {headers : Headers}
    (h : Headers.ofJson? v = some headers) :
    headers.lines = (sentLines v).map fun sent => (Text.lowerAscii sent.1, sent.2) := by
  have each : ∀ (items : List Json.Value) {lines : List (String × Bytes)},
      items.mapM lineOfJson? = some lines →
        lines = (items.filterMap sentLine?).map fun sent => (Text.lowerAscii sent.1, sent.2) := by
    intro items
    induction items with
    | nil =>
        intro lines read
        cases read
        rfl
    | cons item rest ih =>
        intro lines read
        rw [List.mapM_cons] at read
        obtain ⟨line, first, read⟩ := Option.bind_eq_some_iff.1 read
        obtain ⟨more, onward, same⟩ := Option.bind_eq_some_iff.1 read
        cases same
        obtain ⟨sent, found, lowered⟩ := Option.map_eq_some_iff.1 (sentLine?_of_lineOfJson? first)
        rw [List.filterMap_cons, found, List.map_cons, lowered, ih onward]
  obtain ⟨lines, read, rfl⟩ := Option.map_eq_some_iff.1 h
  exact each v.items read

/-- The values of a name are those that were sent under it in any case. -/
theorem Headers.values_of_ofJson? {v : Json.Value} {headers : Headers}
    (h : Headers.ofJson? v = some headers) (name : String) :
    headers.values name =
      ((sentLines v).filter fun sent => Text.lowerAscii sent.1 == name).map (·.2) := by
  rw [values, lines_of_ofJson? h, List.filter_map, List.map_map]
  rfl

end Gatehouse.Http
