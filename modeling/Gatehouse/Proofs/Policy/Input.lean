import Gatehouse.Policy.Input
import Gatehouse.Proofs.Http.Header
import Gatehouse.Proofs.Text.Split

/-!
# What a policy is asked about - The lines that it sees

A policy is told the readable values of each name in the header of a request, in their order.  The
lines that carry credentials are withheld: what stands on them makes no difference.

Main definition: `addLine`: what one line adds to what a policy is told.

Main results:

- Theorem `find?_headerTable`: what a policy is told under each name.
- Theorem `headerTable_without`: the lines with credentials may as well not be there.
-/

namespace Gatehouse.Policy

open Http (Headers readable?)
open Text (joinWith)

variable {table : Table String} {line : String × Bytes} {name : String}

/-- A text behind those that stand before it. -/
def behind (before : Option String) (text : String) : String :=
  match before with
  | some before => before ++ ", " ++ text
  | none => text

/-- What one line adds: its text, behind those of other lines of the name. -/
def addLine (table : Table String) (line : String × Bytes) : Table String :=
  if withheldLines.contains line.1 then table
  else
    match readable? line.2 with
    | none => table
    | some text => table.change line.1 fun before => behind before text

theorem headerTable_eq_foldl (headers : Headers) :
    headerTable headers = headers.lines.foldl addLine .empty := rfl

/-! ## Lines one by one -/

theorem addLine_of_withheld (h : line.1 ∈ withheldLines) : addLine table line = table := by
  rw [addLine, if_pos (by simpa using h)]

theorem find?_addLine_of_ne (h : line.1 ≠ name) :
    (addLine table line).find? name = table.find? name := by
  unfold addLine
  split
  · rfl
  · split
    · rfl
    · exact table.find?_put_of_ne (Ne.symm h) _

theorem find?_addLine_self (shown : line.1 ∉ withheldLines) :
    (addLine table line).find? line.1 =
      ((readable? line.2).map (behind (table.find? line.1))).or (table.find? line.1) := by
  rw [addLine, if_neg (by simpa using shown)]
  cases readable? line.2 with
  | none => rfl
  | some text => exact table.find?_put_self line.1 _

/-! ## All lines -/

/-- Texts that come one behind the other are joined by commas. -/
theorem foldl_behind (text : String) (texts : List String) :
    texts.foldl (fun before text => some (behind before text)) (some text) =
      some (joinWith ", " (text :: texts)) := by
  induction texts generalizing text with
  | nil => rfl
  | cons next rest ih =>
      rw [List.foldl_cons, behind, ih]
      cases rest with
      | nil => rfl
      | cons last rest => simp only [joinWith, String.append_assoc]

theorem find?_foldl_addLine (shown : name ∉ withheldLines) (lines : List (String × Bytes)) :
    (lines.foldl addLine table).find? name =
      (((lines.filter (·.1 == name)).map (·.2)).filterMap readable?).foldl
        (fun before text => some (behind before text)) (table.find? name) := by
  induction lines generalizing table with
  | nil => rfl
  | cons line rest ih =>
      rw [List.foldl_cons, ih]
      by_cases here : line.1 = name
      · subst here
        rw [find?_addLine_self shown, List.filter_cons_of_pos (by simp), List.map_cons,
          List.filterMap_cons]
        cases readable? line.2 <;> rfl
      · rw [find?_addLine_of_ne here, List.filter_cons_of_neg (by simpa using here)]

theorem find?_foldl_addLine_of_withheld (withheld : name ∈ withheldLines)
    (lines : List (String × Bytes)) :
    (lines.foldl addLine table).find? name = table.find? name := by
  induction lines generalizing table with
  | nil => rfl
  | cons line rest ih =>
      rw [List.foldl_cons, ih]
      by_cases here : line.1 = name
      · rw [addLine_of_withheld (here ▸ withheld)]
      · exact find?_addLine_of_ne here

/-- A policy is told the readable values of each name, joined by commas, but for the lines with
credentials. -/
theorem find?_headerTable (headers : Headers) (name : String) :
    (headerTable headers).find? name =
      if name ∈ withheldLines ∨ (headers.values name).filterMap readable? = [] then none
      else some (joinWith ", " ((headers.values name).filterMap readable?)) := by
  rw [headerTable_eq_foldl]
  by_cases withheld : name ∈ withheldLines
  · rw [find?_foldl_addLine_of_withheld withheld, if_pos (.inl withheld), Table.find?_empty]
  · rw [find?_foldl_addLine withheld, Table.find?_empty, ← Headers.values]
    cases (headers.values name).filterMap readable? with
    | nil => simp
    | cons text texts =>
        rw [if_neg (by simpa using withheld)]
        exact foldl_behind text texts

/-- The lines with credentials may as well not be there. -/
theorem headerTable_without (headers : Headers) :
    headerTable (headers.without withheldLines) = headerTable headers := by
  have skipped : ∀ (lines : List (String × Bytes)) (table : Table String),
      (lines.filter fun line => !withheldLines.contains line.1).foldl addLine table =
        lines.foldl addLine table := by
    intro lines
    induction lines with
    | nil => exact fun _ => rfl
    | cons line rest ih =>
        intro table
        by_cases withheld : line.1 ∈ withheldLines
        · rw [List.filter_cons_of_neg (by simpa using withheld), ih, List.foldl_cons,
            addLine_of_withheld withheld]
        · rw [List.filter_cons_of_pos (by simpa using withheld), List.foldl_cons, ih,
            List.foldl_cons]
  exact skipped headers.lines .empty

end Gatehouse.Policy
