import Gatehouse.Text.Blank
import Gatehouse.Text.Split

/-!
# Cutting texts at a character - Pieces

A text that was joined from pieces without the separator is cut into these pieces again, and a text
without blanks has none to remove.

Main results:

- Theorem `cut?_append` and theorem `cutLast?_append`: a text is cut where its parts were joined.
- Theorem `cutLast?_eq_some_iff`: the parts of a text that is cut at its last separator.
- Theorem `splitOn_cons`, theorem `splitOn_of_notMem` and theorem `splitOn_append`: the pieces of a
  text that was joined.
- Theorem `joinWith_splitOn` and theorem `splitOn_joinWith`: a text is joined from its pieces, and cut
  into the pieces of what it was joined from.
- Theorem `trim_of_notBlank`: a text without blanks stays as it is.
- Theorem `cut?_trim`: blanks around a text may be removed before it is cut or after.
-/

namespace Gatehouse.Text

variable {sep : Char}

/-! ## Cutting once -/

theorem cutChars?_append {before : List Char} (h : sep ∉ before) (after : List Char) :
    cutChars? sep (before ++ sep :: after) = some (before, after) := by
  induction before with
  | nil => simp [cutChars?]
  | cons c rest ih =>
      rw [List.mem_cons, not_or] at h
      rw [List.cons_append, cutChars?, if_neg (Ne.symm h.1), ih h.2]
      rfl

/-- A text is cut at the separator behind a part that has none. -/
theorem cut?_append {first : String} (h : sep ∉ first.toList) (last : String) :
    cut? sep (first ++ String.singleton sep ++ last) = some (first, last) := by
  have joined : (first ++ String.singleton sep ++ last).toList =
      first.toList ++ sep :: last.toList := by
    simp
  rw [cut?, joined, cutChars?_append h]
  simp

/-- A text is cut at the separator in front of a part that has none. -/
theorem cutLast?_append {last : String} (h : sep ∉ last.toList) (first : String) :
    cutLast? sep (first ++ String.singleton sep ++ last) = some (first, last) := by
  have reversed : (first ++ String.singleton sep ++ last).toList.reverse =
      last.toList.reverse ++ sep :: first.toList.reverse := by
    simp
  rw [cutLast?, reversed, cutChars?_append (by simpa using h)]
  simp

/-- What stands in front of the first separator has none. -/
theorem of_cutChars? {cs before after : List Char} (h : cutChars? sep cs = some (before, after)) :
    cs = before ++ sep :: after ∧ sep ∉ before := by
  induction cs generalizing before with
  | nil => cases h
  | cons c rest ih =>
      rw [cutChars?] at h
      split at h
      · rename_i here
        cases h
        exact ⟨by rw [here, List.nil_append], List.not_mem_nil⟩
      · rename_i other
        obtain ⟨⟨front, back⟩, found, same⟩ := Option.map_eq_some_iff.1 h
        cases same
        obtain ⟨rfl, free⟩ := ih found
        exact ⟨rfl, List.not_mem_cons_of_ne_of_not_mem (Ne.symm other) free⟩

/-- Where there is no separator, there is nothing to cut. -/
theorem cutChars?_eq_none_iff {cs : List Char} : cutChars? sep cs = none ↔ sep ∉ cs := by
  induction cs with
  | nil => simp [cutChars?]
  | cons c rest ih =>
      by_cases here : c = sep
      · simp [cutChars?, here]
      · simp [cutChars?, here, ih, Ne.symm here]

/-- The parts of a text that is cut. -/
theorem of_cut? {s first last : String} (h : cut? sep s = some (first, last)) :
    s = first ++ String.singleton sep ++ last ∧ sep ∉ first.toList := by
  obtain ⟨⟨before, after⟩, found, same⟩ := Option.map_eq_some_iff.1 h
  cases same
  obtain ⟨joined, free⟩ := of_cutChars? found
  refine ⟨String.toList_inj.1 ?_, by simpa using free⟩
  rw [joined]
  simp

/-- A text that is cut at its last separator was joined from parts of which the last has none. -/
theorem cutLast?_eq_some_iff {s first last : String} :
    cutLast? sep s = some (first, last) ↔
      s = first ++ String.singleton sep ++ last ∧ sep ∉ last.toList := by
  constructor
  · intro h
    obtain ⟨⟨after, before⟩, found, same⟩ := Option.map_eq_some_iff.1 h
    cases same
    obtain ⟨reversed, free⟩ := of_cutChars? found
    refine ⟨String.toList_inj.1 ?_, by simpa using free⟩
    rw [← List.reverse_reverse s.toList, reversed]
    simp
  · rintro ⟨rfl, free⟩
    exact cutLast?_append free first

/-! ## Cutting everywhere -/

theorem splitChars_of_notMem {piece : List Char} (h : sep ∉ piece) :
    splitChars sep piece = [piece] := by
  induction piece with
  | nil => rfl
  | cons c rest ih =>
      rw [List.mem_cons, not_or] at h
      rw [splitChars, if_neg (Ne.symm h.1), ih h.2]

theorem splitChars_append {piece : List Char} (h : sep ∉ piece) (rest : List Char) :
    splitChars sep (piece ++ sep :: rest) = piece :: splitChars sep rest := by
  induction piece with
  | nil => rw [List.nil_append, splitChars, if_pos rfl]
  | cons c piece ih =>
      rw [List.mem_cons, not_or] at h
      rw [List.cons_append, splitChars, if_neg (Ne.symm h.1), ih h.2]

/-- A text without the separator is its only piece. -/
theorem splitOn_of_notMem {piece : String} (h : sep ∉ piece.toList) :
    splitOn sep piece = [piece] := by
  rw [splitOn, splitChars_of_notMem h]
  simp

/-- The first piece of a text reaches to the first separator. -/
theorem splitOn_cons {piece : String} (h : sep ∉ piece.toList) (rest : String) :
    splitOn sep (piece ++ String.singleton sep ++ rest) = piece :: splitOn sep rest := by
  have joined : (piece ++ String.singleton sep ++ rest).toList =
      piece.toList ++ sep :: rest.toList := by
    simp
  rw [splitOn, joined, splitChars_append h]
  simp [splitOn]

/-- There is always a piece. -/
theorem splitChars_ne_nil (cs : List Char) : splitChars sep cs ≠ [] := by
  induction cs with
  | nil => exact List.cons_ne_nil _ _
  | cons c rest ih =>
      rw [splitChars]
      split
      · exact List.cons_ne_nil _ _
      · split
        · exact List.cons_ne_nil _ _
        · exact List.cons_ne_nil _ _

theorem splitChars_join (front back : List Char) :
    splitChars sep (front ++ sep :: back) = splitChars sep front ++ splitChars sep back := by
  induction front with
  | nil => simp [splitChars]
  | cons c rest ih =>
      by_cases here : c = sep
      · rw [List.cons_append, splitChars, if_pos here, ih, splitChars, if_pos here,
          List.cons_append]
      · rw [List.cons_append, splitChars, if_neg here, ih, splitChars, if_neg here]
        cases pieces : splitChars sep rest with
        | nil => exact absurd pieces (splitChars_ne_nil rest)
        | cons piece pieces => rfl

/-- A text that was joined has the pieces of both parts. -/
theorem splitOn_append (front back : String) :
    splitOn sep (front ++ String.singleton sep ++ back) =
      splitOn sep front ++ splitOn sep back := by
  have joined : (front ++ String.singleton sep ++ back).toList =
      front.toList ++ sep :: back.toList := by
    simp
  rw [splitOn, joined, splitChars_join, List.map_append]
  rfl

theorem notMem_of_mem_splitChars {cs piece : List Char} (h : piece ∈ splitChars sep cs) :
    sep ∉ piece := by
  induction cs generalizing piece with
  | nil =>
      cases List.mem_singleton.1 h
      exact List.not_mem_nil
  | cons c rest ih =>
      rw [splitChars] at h
      split at h
      · rcases List.mem_cons.1 h with rfl | later
        · exact List.not_mem_nil
        · exact ih later
      · rename_i other
        split at h
        · rename_i none
          exact absurd none (splitChars_ne_nil rest)
        · rename_i first more pieces
          rw [pieces] at ih
          rcases List.mem_cons.1 h with rfl | later
          · exact List.not_mem_cons_of_ne_of_not_mem (Ne.symm other) (ih List.mem_cons_self)
          · exact ih (List.mem_cons_of_mem _ later)

/-- The pieces have only characters of the text. -/
theorem mem_of_mem_splitChars {c : Char} {cs piece : List Char} (h : piece ∈ splitChars sep cs)
    (mem : c ∈ piece) : c ∈ cs := by
  induction cs generalizing piece with
  | nil =>
      cases List.mem_singleton.1 h
      cases mem
  | cons d rest ih =>
      rw [splitChars] at h
      split at h
      · rcases List.mem_cons.1 h with rfl | later
        · cases mem
        · exact List.mem_cons_of_mem _ (ih later mem)
      · cases pieces : splitChars sep rest with
        | nil => exact absurd pieces (splitChars_ne_nil rest)
        | cons first more =>
            rw [pieces] at h ih
            rcases List.mem_cons.1 h with rfl | later
            · rcases List.mem_cons.1 mem with rfl | inside
              · exact List.mem_cons_self
              · exact List.mem_cons_of_mem _ (ih List.mem_cons_self inside)
            · exact List.mem_cons_of_mem _ (ih (List.mem_cons_of_mem _ later) mem)

/-- No piece has the separator in it. -/
theorem notMem_of_mem_splitOn {s piece : String} (h : piece ∈ splitOn sep s) :
    sep ∉ piece.toList := by
  obtain ⟨chars, mem, rfl⟩ := List.mem_map.1 h
  simpa using notMem_of_mem_splitChars mem

theorem splitOn_ne_nil (s : String) : splitOn sep s ≠ [] := by
  simpa [splitOn] using splitChars_ne_nil s.toList

/-! ## Joining -/

theorem joinWith_cons {rest : List String} (h : rest ≠ []) (sep s : String) :
    joinWith sep (s :: rest) = s ++ sep ++ joinWith sep rest := by
  cases rest with
  | nil => exact absurd rfl h
  | cons r rest => rfl

/-- Lists that stand one after the other are joined with a separator between them. -/
theorem joinWith_append {front back : List String} (hf : front ≠ []) (hb : back ≠ [])
    (sep : String) :
    joinWith sep (front ++ back) = joinWith sep front ++ sep ++ joinWith sep back := by
  induction front with
  | nil => exact absurd rfl hf
  | cons s rest ih =>
      cases rest with
      | nil => exact joinWith_cons hb sep s
      | cons r rest =>
          have joined := ih (List.cons_ne_nil r rest)
          rw [List.cons_append, joinWith_cons (by simp), joined,
            joinWith_cons (List.cons_ne_nil r rest)]
          simp only [String.append_assoc]

/-- A text is joined from its pieces. -/
theorem joinWith_splitOn (s : String) :
    joinWith (String.singleton sep) (splitOn sep s) = s := by
  have joined : ∀ cs : List Char,
      (joinWith (String.singleton sep) ((splitChars sep cs).map String.ofList)).toList = cs := by
    intro cs
    induction cs with
    | nil => rfl
    | cons c rest ih =>
        rw [splitChars]
        cases pieces : splitChars sep rest with
        | nil => exact absurd pieces (splitChars_ne_nil rest)
        | cons piece more =>
            rw [pieces] at ih
            split
            · rename_i here
              simpa [joinWith, here] using ih
            · cases more <;> simpa [joinWith] using ih
  exact String.toList_inj.1 (joined s.toList)

/-- A text that was joined is cut into the pieces of what it was joined from. -/
theorem splitOn_joinWith {parts : List String} (h : parts ≠ []) :
    splitOn sep (joinWith (String.singleton sep) parts) = parts.flatMap (splitOn sep) := by
  induction parts with
  | nil => exact absurd rfl h
  | cons part rest ih =>
      cases rest with
      | nil => simp [joinWith]
      | cons next rest =>
          rw [joinWith_cons (List.cons_ne_nil next rest), splitOn_append,
            ih (List.cons_ne_nil next rest)]
          rfl

/-! ## Blanks -/

/-- A text without blanks stays as it is. -/
theorem trim_of_notBlank {s : String} (h : ∀ c ∈ s.toList, isBlank c = false) : trim s = s := by
  have dropNone : ∀ cs : List Char, (∀ c ∈ cs, isBlank c = false) → cs.dropWhile isBlank = cs := by
    intro cs hcs
    cases cs with
    | nil => rfl
    | cons c rest => rw [List.dropWhile_cons_of_neg (by simp [hcs c List.mem_cons_self])]
  rw [trim, trimChars, trimFront, dropNone _ h, trimBack,
    dropNone _ fun c hc => h c (List.mem_reverse.1 hc), List.reverse_reverse, String.ofList_toList]

theorem mem_of_mem_trimChars {c : Char} {cs : List Char} (h : c ∈ trimChars cs) : c ∈ cs := by
  have front := (List.dropWhile_sublist _).subset (List.mem_reverse.1 h)
  exact (List.dropWhile_sublist _).subset (List.mem_reverse.1 front)

/-- Blanks in front of a text do not count. -/
theorem trimChars_append_left {front : List Char} (h : ∀ c ∈ front, isBlank c = true)
    (cs : List Char) : trimChars (front ++ cs) = trimChars cs := by
  rw [trimChars, trimFront, List.dropWhile_append_of_pos h]
  rfl

/-- Blanks behind a text do not count. -/
theorem trimChars_append_right {back : List Char} (h : ∀ c ∈ back, isBlank c = true)
    (cs : List Char) : trimChars (cs ++ back) = trimChars cs := by
  have dropped : ∀ cs : List Char, trimBack (cs ++ back) = trimBack cs := by
    intro cs
    rw [trimBack, List.reverse_append,
      List.dropWhile_append_of_pos fun c hc => h c (List.mem_reverse.1 hc)]
    rfl
  rw [trimChars, trimChars, trimFront, trimFront, List.dropWhile_append]
  by_cases blank : (cs.dropWhile isBlank).isEmpty = true
  · have all : back.dropWhile isBlank = [] := by
      have dropped : (back ++ []).dropWhile isBlank = [] := List.dropWhile_append_of_pos h
      rwa [List.append_nil] at dropped
    rw [if_pos blank, all, List.isEmpty_iff.1 blank]
  · rw [if_neg blank, dropped]

theorem trimChars_trimFront (cs : List Char) : trimChars (trimFront cs) = trimChars cs := by
  have blank : ∀ c ∈ cs.takeWhile isBlank, isBlank c = true :=
    List.all_eq_true.1 List.all_takeWhile
  have rest := trimChars_append_left blank (trimFront cs)
  rw [trimFront, List.takeWhile_append_dropWhile] at rest
  exact rest.symm

theorem trimChars_trimBack (cs : List Char) : trimChars (trimBack cs) = trimChars cs := by
  have blank : ∀ c ∈ (cs.reverse.takeWhile isBlank).reverse, isBlank c = true := fun c hc =>
    List.all_eq_true.1 List.all_takeWhile c (List.mem_reverse.1 hc)
  have rest := trimChars_append_right blank (trimBack cs)
  rw [trimBack, ← List.reverse_append, List.takeWhile_append_dropWhile, List.reverse_reverse] at rest
  exact rest.symm

/-- Nothing is removed beyond a character that is not blank. -/
theorem trimChars_append_cons {c : Char} (h : isBlank c = false) (front back : List Char) :
    trimChars (front ++ c :: back) = trimFront front ++ c :: trimBack back := by
  have stays (cs : List Char) : (c :: cs).dropWhile isBlank = c :: cs :=
    List.dropWhile_cons_of_neg (by simp [h])
  have stops (front back : List Char) :
      (front ++ c :: back).dropWhile isBlank = front.dropWhile isBlank ++ c :: back := by
    rw [List.dropWhile_append]
    by_cases blank : (front.dropWhile isBlank).isEmpty = true
    · rw [if_pos blank, stays, List.isEmpty_iff.1 blank, List.nil_append]
    · rw [if_neg blank]
  rw [trimChars, trimFront, stops, trimBack, List.reverse_append, List.reverse_cons,
    List.append_assoc, List.singleton_append, stops, List.reverse_append, List.reverse_cons,
    List.reverse_reverse, List.append_assoc, List.singleton_append]
  rfl

/-- Cutting a text at a character that is not blank comes to the same before and after the blanks
around it are removed. -/
theorem cut?_trim (h : isBlank sep = false) (s : String) :
    (cut? sep (trim s)).map (fun parts => (trim parts.1, trim parts.2)) =
      (cut? sep s).map fun parts => (trim parts.1, trim parts.2) := by
  have parts : ∀ cs, (cutChars? sep (trimChars cs)).map (fun parts =>
      (trimChars parts.1, trimChars parts.2)) =
        (cutChars? sep cs).map fun parts => (trimChars parts.1, trimChars parts.2) := by
    intro cs
    cases cut : cutChars? sep cs with
    | none =>
        have absent : sep ∉ trimChars cs := fun mem =>
          cutChars?_eq_none_iff.1 cut (mem_of_mem_trimChars mem)
        rw [cutChars?_eq_none_iff.2 absent]
    | some ends =>
        obtain ⟨before, after⟩ := ends
        obtain ⟨rfl, free⟩ := of_cutChars? cut
        have free' : sep ∉ trimFront before := fun mem =>
          free ((List.dropWhile_sublist _).subset mem)
        rw [trimChars_append_cons h, cutChars?_append free']
        simp [trimChars_trimFront, trimChars_trimBack]
  have both := congrArg (Option.map fun parts : List Char × List Char =>
    (String.ofList parts.1, String.ofList parts.2)) (parts s.toList)
  simpa [cut?, trim, Function.comp_def] using both

end Gatehouse.Text
