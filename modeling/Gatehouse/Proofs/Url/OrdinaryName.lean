import Gatehouse.Proofs.Text.Affix
import Gatehouse.Proofs.Text.Split
import Gatehouse.Proofs.Url.Host

/-!
# Ordinary host names - Read as they are written

Most hosts are names of ASCII that have no label in Punycode and do not end in a number.  Bringing such
a name into its ASCII form only makes its letters small, so it is the host of every address that it
stands in, whatever the scheme.

Main definitions:

- `IsOwnHost`: a name that is read as the host with this name.
- `IsOrdinary`: ASCII names without Punycode and without a number at the end.

Main results:

- Theorem `Idna.asciiName?_of_isOrdinary`: the ASCII form of an ordinary name.
- Theorem `isOwnHost_of_isOrdinary`: an ordinary name is read as the host with this name.
-/

namespace Gatehouse

/-- Without a percent sign nothing is replaced. -/
theorem Percent.decode_of_notMem {bs : Bytes} (h : 0x25 ∉ bs) : Percent.decode bs = bs := by
  fun_induction Percent.decode bs with
  | case1 => rfl
  | case2 x => rfl
  | case3 x y => rfl
  | case4 y z rest hi lo _ _ ih => exact absurd List.mem_cons_self h
  | case5 y z rest _ ih => exact absurd List.mem_cons_self h
  | case6 x y z rest other ih => rw [ih (List.not_mem_of_not_mem_cons h)]

namespace Url

variable {name : String} {cs label : List Char}

/-- After schemes of a kind the name is read as a host of that name, but for the case of letters. -/
def IsOwnHost (kind : SchemeKind) (name : String) : Prop :=
  ∃ host, Host.read? kind name = some host ∧ Text.eqIgnoreCase name host.text = true

/-- The name is one of ASCII, without labels in Punycode, and the last label is no number. -/
structure IsOrdinary (name : String) : Prop where
  nonempty : name ≠ ""
  ascii : ∀ c ∈ name.toList, c.toNat < 128
  allowed : ∀ c ∈ name.toList, Idna.isForbidden c.toNat = false
  plain : ∀ label ∈ Text.splitOn '.' (Text.lowerAscii name), Text.startsWith "xn--" label = false
  numberless : endsInNumber (Text.lowerAscii name) = false

namespace IsOrdinary

theorem notMem (h : IsOrdinary name) (c : Char)
    (forbidden : Idna.isForbidden c.toNat = true) : c ∉ name.toList := by
  intro mem
  cases (h.allowed c mem).symm.trans forbidden

theorem bracketless (h : IsOrdinary name) : Text.startsWith "[" name = false := by
  refine Bool.eq_false_iff.2 fun bracket => ?_
  obtain ⟨rest, rfl⟩ := Text.startsWith_iff.1 bracket
  exact h.notMem '[' (by decide) (by simp)

end IsOrdinary

/-! ## Lower case -/

theorem toNat_lowerChar_lt {c : Char} (h : c.toNat < 128) : (Text.lowerChar c).toNat < 128 := by
  rw [Text.toNat_lowerChar]
  split <;> omega

/-- Small letters are allowed where capital ones are. -/
theorem isForbidden_lowerChar {c : Char} (h : Idna.isForbidden c.toNat = false) :
    Idna.isForbidden (Text.lowerChar c).toNat = false := by
  have letter : ∀ n < 123, 97 ≤ n → Idna.isForbidden n = false := by decide
  rw [Text.toNat_lowerChar]
  split
  · exact letter _ (by omega) (by omega)
  · exact h

theorem lowerAscii_ne_empty (h : name ≠ "") : Text.lowerAscii name ≠ "" := by
  simpa [Text.lowerAscii] using h

/-! ## Names of the web -/

namespace Idna

/-- A list is read when all its items are. -/
theorem mapM_of_forall {α β : Type} {f : α → Option β} {g : α → β} {l : List α}
    (h : ∀ a ∈ l, f a = some (g a)) : l.mapM f = some (l.map g) := by
  induction l with
  | nil => rfl
  | cons a l ih =>
      rw [List.forall_mem_cons] at h
      simp [h.1, ih h.2]

/-- Letters of ASCII are mapped to small ones, and its other characters to themselves. -/
theorem mapCode?_of_ascii {c : Char} (h : c.toNat < 128) :
    mapCode? c.toNat = some [(Text.lowerChar c).toNat] := by
  rw [mapCode?, if_pos h, Text.toNat_lowerChar]

/-- Codes are cut at the dots as characters are. -/
theorem splitLabels_map (cs : List Char) :
    splitLabels (cs.map Char.toNat) = (Text.splitChars '.' cs).map (·.map Char.toNat) := by
  induction cs with
  | nil => rfl
  | cons c cs ih =>
      have dot : c.toNat = 0x2E ↔ c = '.' := Char.toNat_inj (d := '.')
      rw [List.map_cons, splitLabels, Text.splitChars]
      simp only [dot, ih]
      split
      · rfl
      · cases Text.splitChars '.' cs <;> rfl

/-- A label that is not in Punycode stands for itself. -/
theorem labelCodes?_of_plain (h : Text.startsWith "xn--" (String.ofList label) = false) :
    labelCodes? (label.map Char.toNat) = some (label.map Char.toNat) := by
  have bare : [0x78, 0x6E, 0x2D, 0x2D].isPrefixOf (label.map Char.toNat) = false := by
    refine Bool.eq_false_iff.2 fun lead => ?_
    have front : "xn--".toList.map Char.toNat <+: label.map Char.toNat :=
      List.isPrefixOf_iff_prefix.1 lead
    rw [List.prefix_map_iff_of_injective fun _ _ => Char.toNat_inj.1] at front
    obtain ⟨rest, rfl⟩ := front
    have starts : Text.startsWith "xn--" (String.ofList ("xn--".toList ++ rest)) = true :=
      Text.startsWith_iff.2 ⟨String.ofList rest, String.ofList_append⟩
    cases h.symm.trans starts
  rw [labelCodes?, if_neg (by simp [bare])]

/-- A label of ASCII is written as it is. -/
theorem asciiLabel_map (h : ∀ c ∈ label, c.toNat < 128) :
    asciiLabel (label.map Char.toNat) = label := by
  rw [asciiLabel, if_neg (by simpa using h), List.map_map]
  exact List.map_id'' Char.ofNat_toNat label

/-- Labels that are not in Punycode stand for themselves. -/
theorem mapM_labelCodes?
    (h : ∀ label ∈ Text.splitOn '.' (String.ofList cs), Text.startsWith "xn--" label = false) :
    (splitLabels (cs.map Char.toNat)).mapM labelCodes? =
      some (splitLabels (cs.map Char.toNat)) := by
  have each : ∀ label ∈ splitLabels (cs.map Char.toNat), labelCodes? label = some (id label) := by
    intro label mem
    rw [splitLabels_map] at mem
    obtain ⟨piece, own, rfl⟩ := List.mem_map.1 mem
    refine labelCodes?_of_plain (h _ (List.mem_map_of_mem ?_))
    rwa [String.toList_ofList]
  rw [mapM_of_forall each, List.map_id]

/-- Labels of ASCII are written as they are. -/
theorem joinWith_asciiLabel (h : ∀ c ∈ cs, c.toNat < 128) :
    Text.joinWith "." ((splitLabels (cs.map Char.toNat)).map fun label =>
      String.ofList (asciiLabel label)) = String.ofList cs := by
  have pieces : (splitLabels (cs.map Char.toNat)).map (fun label =>
      String.ofList (asciiLabel label)) = Text.splitOn '.' (String.ofList cs) := by
    rw [splitLabels_map, List.map_map, Text.splitOn, String.toList_ofList]
    refine List.map_congr_left fun piece own => ?_
    exact congrArg _ (asciiLabel_map fun c mem => h c (Text.mem_of_mem_splitChars own mem))
  rw [pieces, show "." = String.singleton '.' from rfl, Text.joinWith_splitOn]

/-- The labels of a name of ASCII are of ASCII. -/
theorem all_splitLabels (h : ∀ c ∈ cs, c.toNat < 128) :
    ((splitLabels (cs.map Char.toNat)).all fun label => label.all (· < 128)) = true := by
  rw [splitLabels_map]
  simp only [List.all_map, List.all_eq_true, Function.comp_apply, decide_eq_true_eq]
  exact fun piece own c mem => h c (Text.mem_of_mem_splitChars own mem)

/-- The ASCII form of an ordinary name is the name with small letters. -/
theorem asciiName?_of_isOrdinary (h : IsOrdinary name) :
    asciiName? name = some (Text.lowerAscii name) := by
  have low : ∀ c ∈ name.toList.map Text.lowerChar, c.toNat < 128 := by
    intro c mem
    obtain ⟨d, own, rfl⟩ := List.mem_map.1 mem
    exact toNat_lowerChar_lt (h.ascii d own)
  have codes : (name.toList.mapM fun c => mapCode? c.toNat) =
      some (name.toList.map fun c => [(Text.lowerChar c).toNat]) :=
    mapM_of_forall fun c mem => mapCode?_of_ascii (h.ascii c mem)
  have flat : (name.toList.map fun c => [(Text.lowerChar c).toNat]).flatten =
      (name.toList.map Text.lowerChar).map Char.toNat := by
    rw [← List.flatMap_def, ← List.map_eq_flatMap, List.map_map]
    rfl
  have bounded : ((name.toList.map Text.lowerChar).map Char.toNat).all (· < 128) = true := by
    simpa using low
  have allowed : (Text.lowerAscii name).toList.all (fun c => !isForbidden c.toNat) = true := by
    simpa [Text.lowerAscii] using fun c mem => isForbidden_lowerChar (h.allowed c mem)
  have written := joinWith_asciiLabel low
  rw [← Text.lowerAscii] at written
  simp only [asciiName?, codes, flat, bounded, Option.bind_eq_bind, Option.bind_some,
    mapM_labelCodes? h.plain, all_splitLabels low, written, allowed, if_true, Bool.true_or,
    Bool.and_self]

end Idna

/-- An ordinary name is the host of web addresses and files with small letters. -/
theorem Host.ofText?_of_isOrdinary (h : IsOrdinary name) :
    Host.ofText? name = some (.name (Text.lowerAscii name)) := by
  have escapeless : 0x25 ∉ utf8 name := by
    intro escape
    rw [← String.ofList_toList (s := name)] at escape
    exact h.notMem '%' (by decide) (mem_of_mem_utf8 escape (by decide))
  simp only [Host.ofText?, h.bracketless, Percent.decode_of_notMem escapeless, text?_utf8,
    Idna.asciiName?_of_isOrdinary h, Option.bind_eq_bind, Option.bind_some, h.numberless]
  simp [lowerAscii_ne_empty h.nonempty]

/-! ## Other names -/

/-- Visible characters of ASCII are not escaped. -/
theorem encode_of_visible (h : ∀ c ∈ cs, 0x20 < c.toNat ∧ c.toNat < 127) :
    Percent.encode (fun _ => false) cs = cs := by
  have kept : ∀ n < 127, 0x20 < n → (UInt8.ofNat n).toNat = n ∧
      (decide (UInt8.ofNat n < 0x20) || decide (UInt8.ofNat n ≥ 0x7F)) = false := by
    decide
  have plain : Http.IsPlain (String.ofList cs) := by
    intro c mem
    rw [String.toList_ofList] at mem
    exact ⟨Nat.le_of_lt (h c mem).1, (h c mem).2⟩
  rw [Percent.encode, Http.utf8_of_isPlain plain, String.toList_ofList, List.flatMap_map]
  refine Eq.trans (List.flatMap_congr fun c mem => ?_) (List.flatMap_singleton' cs)
  obtain ⟨number, visible⟩ := kept c.toNat (h c mem).2 (h c mem).1
  simp only [Bool.or_false, visible, number, Char.ofNat_toNat, Bool.false_eq_true, if_false]

/-- An ordinary name is the host of other addresses as it is. -/
theorem Host.ofOpaqueText?_of_isOrdinary (h : IsOrdinary name) :
    Host.ofOpaqueText? name = some (.name name) := by
  have opened : ∀ n < 128, Idna.isForbidden n = false →
      isForbiddenOpaque (Char.ofNat n) = false ∧ 0x20 < n ∧ n < 127 := by
    decide
  have each : ∀ c ∈ name.toList, isForbiddenOpaque c = false ∧ 0x20 < c.toNat ∧ c.toNat < 127 := by
    intro c mem
    have allowed := opened c.toNat (h.ascii c mem) (h.allowed c mem)
    rwa [Char.ofNat_toNat] at allowed
  have silent : name.toList.any isForbiddenOpaque = false := by
    simpa using fun c mem => (each c mem).1
  rw [Host.ofOpaqueText?, if_neg (by simp [h.bracketless]), if_neg (by simp [silent]),
    encode_of_visible fun c mem => (each c mem).2, String.ofList_toList]

/-- An ordinary name is read as a host of this name, but for the case of letters. -/
theorem isOwnHost_of_isOrdinary (kind : SchemeKind) (h : IsOrdinary name) :
    IsOwnHost kind name := by
  unfold IsOwnHost Host.read?
  split
  · exact ⟨_, Host.ofOpaqueText?_of_isOrdinary h, beq_self_eq_true _⟩
  · refine ⟨_, Host.ofText?_of_isOrdinary h, ?_⟩
    rw [Host.text, Text.eqIgnoreCase_comm, Text.eqIgnoreCase_lowerAscii]
    exact beq_self_eq_true _

end Url

end Gatehouse
