import Gatehouse.Net.ClientAddress
import Mathlib.Data.List.Basic

/-!
# The client behind proxies - What stands in front of the first untrusted hop

The hops of the `x-forwarded-for` lines are read from the right, and everything in front of the
first untrusted one comes from whoever made the request.  A line counts only as a whole: what is
said of the hops of a line holds as long as all of the line is readable.

Main definitions:

- `pieces`: what stands between the commas of a line, as bytes.
- `hopAddress?` and `Passed`: the address that is noted in a hop, and hops that are passed on the
  way to the client.

Main results:

- Theorem `lineHops_of_readable` and theorem `lineHops_of_unreadable`: the hops of a line.
- Theorem `TrustedNetworks.walk_to`: a walk over trusted hops to an untrusted one.
- Theorem `TrustedNetworks.clientAddress_of_untrusted`: the client is the first untrusted hop as
  long as its line is readable; otherwise its line does not count at all.
-/

namespace Gatehouse.Net

open Http (Headers isReadableByte readable?)

variable {trusted : TrustedNetworks} {line : Bytes}

/-! ## Hops of a line -/

/-- The byte of the comma. -/
def comma : UInt8 := 0x2C

/-- What stands between the commas of a line. -/
def pieces (line : Bytes) : List Bytes :=
  line.splitOn comma

/-- The text of readable bytes. -/
def readText (bs : Bytes) : String :=
  String.ofList (bs.map fun b => Char.ofNat b.toNat)

theorem readable?_of_all (h : line.all isReadableByte = true) :
    readable? line = some (readText line) :=
  if_pos h

theorem readable?_of_not_all (h : ¬line.all isReadableByte = true) : readable? line = none :=
  if_neg h

/-- The text of a hop without blanks, unless there is none. -/
def hopText? (hop : Bytes) : Option String :=
  ((readable? hop).map Text.trim).filter (!·.isEmpty)

/-- The hops that a line adds. -/
def lineHops (line : Bytes) : List String :=
  match readable? line with
  | some text => ((Text.splitOn ',' text).map Text.trim).filter (!·.isEmpty)
  | none => []

/-- The hops are those of the lines in order. -/
theorem hops_eq (headers : Headers) :
    hops headers = (headers.values "x-forwarded-for").flatMap lineHops := by
  unfold hops
  induction headers.values "x-forwarded-for" with
  | nil => rfl
  | cons line rest ih =>
      rw [List.flatMap_cons, ← ih, lineHops]
      cases h : readable? line with
      | none => simp [h]
      | some text => simp [h]

/-- A byte is read as a comma when it is one. -/
theorem readByte_eq_comma_iff (b : UInt8) : Char.ofNat b.toNat = ',' ↔ (b == comma) = true := by
  have all : ∀ n < 256, (Char.ofNat n = ',' ↔ n = 44) := by decide +kernel
  rw [all b.toNat b.toNat_lt, beq_iff_eq, comma, ← UInt8.toNat_inj]
  rfl

/-- The text of a line is cut where the line is. -/
theorem splitChars_readBytes (line : Bytes) :
    Text.splitChars ',' (line.map fun b => Char.ofNat b.toNat) =
      (pieces line).map (List.map fun b => Char.ofNat b.toNat) := by
  unfold pieces List.splitOn
  induction line with
  | nil => rfl
  | cons b rest ih =>
      rw [List.map_cons, Text.splitChars, List.splitOnP_cons_eq_if_modifyHead, ih]
      by_cases same : (b == comma) = true
      · rw [if_pos ((readByte_eq_comma_iff b).2 same), if_pos same]
        rfl
      · rw [if_neg fun read => same ((readByte_eq_comma_iff b).1 read), if_neg same]
        cases h : rest.splitOnP (· == comma) with
        | nil => exact absurd h (List.splitOnP_ne_nil _ _)
        | cons first others => rfl

/-- A line is readable when all of its pieces are. -/
theorem all_readable_iff (line : Bytes) :
    line.all isReadableByte = true ↔ ∀ piece ∈ pieces line, piece.all isReadableByte = true := by
  unfold pieces List.splitOn
  induction line with
  | nil => simp
  | cons b rest ih =>
      rw [List.splitOnP_cons_eq_if_modifyHead, List.all_cons, Bool.and_eq_true, ih]
      split
      · rename_i same
        obtain rfl : b = comma := by simpa using same
        simp only [List.mem_cons, forall_eq_or_imp, List.all_nil, true_and]
        exact and_iff_right (by decide)
      · cases h : rest.splitOnP (· == comma) with
        | nil => exact absurd h (List.splitOnP_ne_nil _ _)
        | cons first others => simp [and_assoc]

/-- A readable line adds the hops between its commas. -/
theorem lineHops_of_readable (h : line.all isReadableByte = true) :
    lineHops line = (pieces line).filterMap hopText? := by
  have cut : Text.splitOn ',' (readText line) = (pieces line).map readText := by
    rw [Text.splitOn, readText, String.toList_ofList, splitChars_readBytes, List.map_map]
    rfl
  have readable := (all_readable_iff line).1 h
  rw [lineHops, readable?_of_all h]
  simp only
  rw [cut, List.map_map]
  generalize pieces line = ps at readable
  induction ps with
  | nil => rfl
  | cons piece rest ih =>
      rw [List.forall_mem_cons] at readable
      rw [List.map_cons, List.filter_cons, List.filterMap_cons, ih readable.2, hopText?,
        readable?_of_all readable.1]
      cases blank : (Text.trim (readText piece)).isEmpty <;> simp [Option.filter, blank]

/-- A line that is not readable adds nothing. -/
theorem lineHops_of_unreadable (h : ¬line.all isReadableByte = true) : lineHops line = [] := by
  rw [lineHops, readable?_of_not_all h]

/-! ## Walking -/

/-- The address that is noted in a hop. -/
def hopAddress? (hop : Bytes) : Option Address :=
  (readable? hop).bind fun text => Address.ofText? (Text.trim text)

/-- A hop in which an address is noted can be read. -/
theorem readable_of_hopAddress {hop : Bytes} {a : Address} (h : hopAddress? hop = some a) :
    hop.all isReadableByte = true := by
  by_contra unreadable
  simp [hopAddress?, readable?_of_not_all unreadable] at h

/-- A hop on the way to the client: nothing at all or a trusted proxy. -/
inductive Passed (trusted : TrustedNetworks) (hop : Bytes) : Prop where
  | blank {text : String} (readable : readable? hop = some text)
      (empty : (Text.trim text).isEmpty = true)
  | proxy {a : Address} (noted : hopAddress? hop = some a) (known : trusted.contains a = true)

/-- A hop that is passed can be read. -/
theorem Passed.readable {hop : Bytes} (h : Passed trusted hop) :
    hop.all isReadableByte = true := by
  cases h with
  | blank readable empty =>
      by_contra unreadable
      simp [readable?_of_not_all unreadable] at readable
  | proxy noted known => exact readable_of_hopAddress noted

/-- A hop that is passed is left out or is that of a trusted proxy. -/
theorem Passed.known {hop : Bytes} (h : Passed trusted hop) {text : String}
    (written : hopText? hop = some text) :
    ∃ a, Address.ofText? text = some a ∧ trusted.contains a = true := by
  obtain ⟨given, nonempty⟩ := Option.filter_eq_some_iff.1 written
  obtain ⟨whole, read, rfl⟩ := Option.map_eq_some_iff.1 given
  cases h with
  | blank readable empty =>
      rw [readable] at read
      cases read
      simp [empty] at nonempty
  | @proxy a noted known =>
      rw [hopAddress?, read, Option.bind_some] at noted
      exact ⟨a, noted, known⟩

/-- An address is not written with nothing. -/
theorem Address.ofText?_empty : Address.ofText? "" = none := by
  decide +kernel

/-- Lines of nothing but passed hops add these hops. -/
theorem lineHops_of_passed {lines : List Bytes}
    (h : ∀ piece ∈ lines.flatMap pieces, Passed trusted piece) :
    lines.flatMap lineHops = (lines.flatMap pieces).filterMap hopText? := by
  induction lines with
  | nil => rfl
  | cons line rest ih =>
      rw [List.flatMap_cons, List.forall_mem_append] at h
      have readable : line.all isReadableByte = true :=
        (all_readable_iff line).2 fun piece hpiece => (h.1 piece hpiece).readable
      rw [List.flatMap_cons, List.flatMap_cons, List.filterMap_append, ih h.2,
        lineHops_of_readable readable]

/-- The text of a hop in which an address is noted. -/
theorem hopText?_of_address {hop : Bytes} {a : Address} (h : hopAddress? hop = some a) :
    ∃ text, hopText? hop = some text ∧ Address.ofText? text = some a := by
  obtain ⟨whole, read, noted⟩ := Option.bind_eq_some_iff.1 h
  refine ⟨Text.trim whole, ?_, noted⟩
  have nonempty : Text.trim whole ≠ "" := by
    intro empty
    rw [empty, Address.ofText?_empty] at noted
    cases noted
  simp [hopText?, read, Option.filter, nonempty]

namespace TrustedNetworks

/-- A walk over trusted hops to an untrusted one ends there, whatever comes behind it. -/
theorem walk_to {passed rest : List String} {text : String} {h : Address}
    (known : ∀ hop ∈ passed, ∃ a, Address.ofText? hop = some a ∧ trusted.contains a = true)
    (noted : Address.ofText? text = some h) (untrusted : trusted.contains h = false)
    (last : Address) : trusted.walk last (passed ++ text :: rest) = h := by
  induction passed generalizing last with
  | nil => simp [walk, noted, untrusted]
  | cons hop passed ih =>
      rw [List.forall_mem_cons] at known
      obtain ⟨a, first, trusts⟩ := known.1
      simp only [List.cons_append, walk, first, trusts, if_true]
      exact ih known.2 a

/-- Behind trusted hops, the untrusted hop is the client as long as all of its line can be read,
whatever stands in front of it and on earlier lines.  Otherwise its line does not count at all. -/
theorem clientAddress_of_untrusted {headers : Headers} {peer h : Address}
    {earlier later : List Bytes} {hop : Bytes} {left right : List Bytes}
    (lines : headers.values "x-forwarded-for" = earlier ++ line :: later)
    (cut : pieces line = left ++ hop :: right) (known : trusted.contains peer = true)
    (noted : hopAddress? hop = some h) (untrusted : trusted.contains h = false)
    (behind : ∀ piece ∈ right ++ later.flatMap pieces, Passed trusted piece) :
    ((∀ piece ∈ left, piece.all isReadableByte = true) →
      trusted.clientAddress headers (some peer) = some h) ∧
    ((¬∀ piece ∈ left, piece.all isReadableByte = true) →
      ∀ others : Headers, others.values "x-forwarded-for" = earlier ++ later →
        trusted.clientAddress headers (some peer) = trusted.clientAddress others (some peer)) := by
  obtain ⟨text, written, named⟩ := hopText?_of_address noted
  constructor
  · intro leftReadable
    have rightPassed : ∀ piece ∈ right, Passed trusted piece := fun piece hpiece =>
      behind piece (List.mem_append_left _ hpiece)
    have lineReadable : line.all isReadableByte = true := by
      rw [all_readable_iff, cut]
      intro piece hpiece
      rcases List.mem_append.1 hpiece with hleft | hright
      · exact leftReadable piece hleft
      · rcases List.mem_cons.1 hright with rfl | hright
        · exact readable_of_hopAddress noted
        · exact (rightPassed piece hright).readable
    have laterHops : later.flatMap lineHops = (later.flatMap pieces).filterMap hopText? :=
      lineHops_of_passed fun piece hpiece => behind piece (List.mem_append_right _ hpiece)
    have split : (hops headers).reverse =
        ((right ++ later.flatMap pieces).filterMap hopText?).reverse ++
          text :: (earlier.flatMap lineHops ++ left.filterMap hopText?).reverse := by
      rw [hops_eq, lines, List.flatMap_append, List.flatMap_cons, lineHops_of_readable lineReadable,
        cut, laterHops]
      simp [written]
    rw [clientAddress, Option.map_some, if_pos known, split, walk_to _ named untrusted]
    intro passed hpassed
    obtain ⟨piece, hpiece, writes⟩ := List.mem_filterMap.1 (List.mem_reverse.1 hpassed)
    exact (behind piece hpiece).known writes
  · intro unreadable others fewer
    have skipped : lineHops line = [] := by
      refine lineHops_of_unreadable fun all => unreadable fun piece hpiece => ?_
      exact (all_readable_iff line).1 all piece (by simp [cut, hpiece])
    have same : hops headers = hops others := by
      rw [hops_eq, hops_eq, lines, fewer]
      simp [skipped]
    rw [clientAddress, clientAddress, same]

/-- The lines of a request that came through the proxy 10.0.0.3 from 198.51.100.7, which had sent
two lines of its own. -/
def forwarded (front : Bytes) : Headers :=
  ⟨[("x-forwarded-for", utf8 "203.0.113.9"),
    ("x-forwarded-for", front ++ utf8 ", 198.51.100.7, 10.0.0.3")]⟩

/-- Behind 10.0.0.2 the client is 198.51.100.7, unless its own line cannot be read. -/
theorem forwarded_client :
    let inner : TrustedNetworks := ⟨[.v4 0x0A000000 8]⟩
    let peer : Address := .v4 0x0A000002
    inner.contains peer = true ∧
    inner.clientAddress (forwarded (utf8 "192.0.2.1")) (some peer) = some (.v4 0xC6336407) ∧
    inner.clientAddress (forwarded [0xFF]) (some peer) = some (.v4 0xCB007109) := by
  intro inner peer
  have noted : hopAddress? (utf8 " 198.51.100.7") = some (.v4 0xC6336407) := by decide +kernel
  have behind : ∀ piece ∈ [utf8 " 10.0.0.3"] ++ ([] : List Bytes).flatMap pieces,
      Passed inner piece := by
    intro piece hpiece
    obtain rfl : piece = utf8 " 10.0.0.3" := by simpa using hpiece
    exact .proxy (a := .v4 0x0A000003) (by decide +kernel) (by decide)
  have lines (front : Bytes) : (forwarded front).values "x-forwarded-for" =
      [utf8 "203.0.113.9"] ++ (front ++ utf8 ", 198.51.100.7, 10.0.0.3") :: [] := rfl
  have known : inner.contains peer = true := by decide
  have untrusted : inner.contains (.v4 0xC6336407) = false := by decide
  refine ⟨known, ?_, ?_⟩
  · have cut : pieces (utf8 "192.0.2.1" ++ utf8 ", 198.51.100.7, 10.0.0.3") =
        [utf8 "192.0.2.1"] ++ utf8 " 198.51.100.7" :: [utf8 " 10.0.0.3"] := by decide +kernel
    exact (clientAddress_of_untrusted (lines _) cut known noted untrusted behind).1 (by decide)
  · have cut : pieces ([0xFF] ++ utf8 ", 198.51.100.7, 10.0.0.3") =
        [[0xFF]] ++ utf8 " 198.51.100.7" :: [utf8 " 10.0.0.3"] := by decide +kernel
    have alone : inner.clientAddress ⟨[("x-forwarded-for", utf8 "203.0.113.9")]⟩ (some peer) =
        some (.v4 0xCB007109) := by decide +kernel
    rw [← alone]
    exact (clientAddress_of_untrusted (lines _) cut known noted untrusted behind).2 (by decide) _
      rfl

end TrustedNetworks

end Gatehouse.Net
