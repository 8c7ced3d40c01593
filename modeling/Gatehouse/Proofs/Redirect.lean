import Gatehouse.Proofs.Encoding.Base64
import Gatehouse.Proofs.Text.Affix
import Gatehouse.Proofs.Text.Split
import Gatehouse.Redirect
import Mathlib.Data.List.DropRight

/-!
# Redirect targets - Which targets are followed

A target is carried as Base64 text with any number of padding marks.  It is followed when it is an
address of the web whose host an entry permits.

Main definitions:

- `HasSlot`: templates with a place for the target.
- `Carries`: the texts that carry a target.
- `WebHost`: the host of a target that is an address of the web.
- `Permits` and `Permitted`: the hosts and targets that entries permit.
- `Returned`: the texts in which a target comes back.

Main results:

- Theorem `fillTemplate_eq`: the target is put into the first place of a template.
- Theorem `decodeTarget?_eq_some_iff`: which texts are read as which targets.
- Theorem `permits_iff`: which entries permit a host.
- Theorem `allowedTarget?_eq_some_iff`: a target is followed when it is carried and permitted.
- Theorem `allowedTarget?_of_returned` and theorem `allowedTarget?_of_not_permitted`: what becomes of a
  target that comes back.
-/

namespace Gatehouse.Redirect

open Text (isBlank isBlankText lowerAscii trim)

variable {target text host entry requested : String} {domains : List String}

/-! ## Templates -/

/-- The template has a place for the target. -/
def HasSlot (template : String) : Prop :=
  ∃ before after, template = before ++ "%s" ++ after

/-- The first place for the target in a template stands between two texts. -/
structure FirstSlot (template before after : String) : Prop where
  cut : template = before ++ "%s" ++ after
  first : ∀ front back, template = front ++ "%s" ++ back → before.length ≤ front.length

theorem hasSlot_iff {template : String} :
    (Text.cutAt? "%s".toList template.toList).isSome = true ↔ HasSlot template := by
  rw [Text.cutAt?_isSome_iff]
  constructor
  · rintro ⟨before, after, joined⟩
    exact ⟨String.ofList before, String.ofList after, String.toList_inj.1 (by rw [joined]; simp)⟩
  · rintro ⟨before, after, rfl⟩
    exact ⟨before.toList, after.toList, by simp⟩

/-- The target is put into the first place of a template and all else stays. -/
theorem fillTemplate_eq {template : String} (slot : HasSlot template) (target : String) :
    ∃ before after, FirstSlot template before after ∧
      fillTemplate template target = before ++ encodeTarget target ++ after := by
  obtain ⟨⟨front, back⟩, cut⟩ := Option.isSome_iff_exists.1 (hasSlot_iff.2 slot)
  have first := Text.firstAt_of_cutAt? cut
  refine ⟨String.ofList front, String.ofList back, ⟨?_, ?_⟩, ?_⟩
  · exact String.toList_inj.1 (by rw [first.cut]; simp)
  · intro front' back' same
    have joined := congrArg String.toList same
    have nearer := first.first front'.toList back'.toList (by simpa using joined)
    simpa [← String.length_toList] using nearer
  · rw [fillTemplate, cut]

/-! ## Carrying a target -/

/-- The Base64 text of some bytes with any number of padding marks. -/
def Written (text : String) (bs : Bytes) : Prop :=
  ∃ marks, text = Base64.encode Base64.urlSafe bs ++ String.ofList (List.replicate marks '=')

/-- The text carries the target. -/
def Carries (text target : String) : Prop :=
  Written text (utf8 target)

theorem written_encode (bs : Bytes) : Written (Base64.encode Base64.urlSafe bs) bs :=
  ⟨0, by simp⟩

theorem written_encodePadded (bs : Bytes) : Written (Base64.encodePadded Base64.urlSafe bs) bs :=
  ⟨_, String.ofList_append⟩

/-- Padding marks at the end are dropped. -/
theorem rdropWhile_append_marks (cs : List Char) (marks : Nat) :
    (cs ++ List.replicate marks '=').rdropWhile (· == '=') = cs.rdropWhile (· == '=') := by
  induction marks with
  | zero => rw [List.replicate_zero, List.append_nil]
  | succ marks ih =>
      rw [List.replicate_succ', ← List.append_assoc, List.rdropWhile_concat_pos _ _ _ (by simp), ih]

/-- Letters stay. -/
theorem rdropWhile_letters {letters : List Char} (bare : '=' ∉ letters) :
    letters.rdropWhile (· == '=') = letters := by
  rw [List.rdropWhile_eq_self_iff]
  intro given last
  have same : letters.getLast given = '=' := by simpa using last
  exact bare (same ▸ List.getLast_mem given)

/-- Nothing but padding marks is dropped. -/
theorem exists_marks (cs : List Char) :
    ∃ marks, cs = cs.rdropWhile (· == '=') ++ List.replicate marks '=' := by
  have marked : ∀ c ∈ cs.rtakeWhile (· == '='), c = '=' := fun c mem => by
    simpa using List.mem_rtakeWhile_imp mem
  refine ⟨(cs.rtakeWhile (· == '=')).length, ?_⟩
  rw [← List.eq_replicate_of_mem marked, List.rdropWhile_append_rtakeWhile]

/-- Without their padding marks texts are read as the bytes that they are written for. -/
theorem decodeChars?_rdropWhile_eq_some_iff {bs : Bytes} :
    Base64.decodeChars? Base64.urlSafe (text.toList.rdropWhile (· == '=')) = some bs ↔
      Written text bs := by
  rw [Base64.decodeChars?_eq_some_iff Base64.faithful_urlSafe]
  constructor
  · intro letters
    obtain ⟨marks, whole⟩ := exists_marks text.toList
    rw [letters] at whole
    exact ⟨marks, String.toList_inj.1 (by rw [whole]; simp [Base64.encode])⟩
  · rintro ⟨marks, rfl⟩
    have joined : (Base64.encode Base64.urlSafe bs ++
        String.ofList (List.replicate marks '=')).toList =
          Base64.encodeChars Base64.urlSafe bs ++ List.replicate marks '=' := by
      simp [Base64.encode]
    have bare := Base64.mark_notMem_encodeChars Base64.unmarked_urlSafe bs
    rw [joined, rdropWhile_append_marks, rdropWhile_letters bare]

/-- Padding marks may be stripped off. -/
theorem Written.of_append_marks {bs : Bytes} {marks : Nat}
    (h : Written (text ++ String.ofList (List.replicate marks '=')) bs) : Written text bs := by
  rw [← decodeChars?_rdropWhile_eq_some_iff] at h ⊢
  rwa [String.toList_append, String.toList_ofList, rdropWhile_append_marks] at h

/-- Whether a text comes with its padding, with other padding marks or with none, it is read as the
bytes that it is written for. -/
theorem decodeTarget?_eq_some_iff {bs : Bytes} : decodeTarget? text = some bs ↔ Written text bs := by
  have padded {bs : Bytes} (read : Base64.decodePadded? Base64.urlSafe text = some bs) :
      Written text bs := by
    rw [Base64.decodePadded?_eq_some_iff Base64.faithful_urlSafe Base64.unmarked_urlSafe] at read
    exact read ▸ written_encodePadded bs
  rw [decodeTarget?, Option.or_eq_some_iff, ← List.rdropWhile, decodeChars?_rdropWhile_eq_some_iff]
  constructor
  · rintro (read | ⟨-, written⟩)
    · exact padded read
    · exact written
  · intro written
    cases read : Base64.decodePadded? Base64.urlSafe text with
    | none => exact .inr ⟨rfl, written⟩
    | some bs' =>
        -- the text is written for one byte string only
        have first := decodeChars?_rdropWhile_eq_some_iff.2 (padded read)
        have second := decodeChars?_rdropWhile_eq_some_iff.2 written
        exact .inl (first.symm.trans second)

/-- A text carries at most one target. -/
theorem target_eq_of_carries {target' : String} (h : Carries text target)
    (h' : Carries text target') : target = target' := by
  have same := (decodeTarget?_eq_some_iff.2 h).symm.trans (decodeTarget?_eq_some_iff.2 h')
  have read := congrArg text? (Option.some.inj same)
  simpa using read

/-! ## Blanks around a text -/

theorem isBlank_letter : ∀ n < 64, isBlank (Base64.urlSafe.letter n) = false := by
  decide

/-- There are no blanks in a text that carries a target. -/
theorem Carries.notBlank (h : Carries text target) : ∀ c ∈ text.toList, isBlank c = false := by
  obtain ⟨marks, rfl⟩ := h
  intro c mem
  rw [String.toList_append, List.mem_append, Base64.encode, String.toList_ofList,
    String.toList_ofList] at mem
  rcases mem with letter | mark
  · obtain ⟨n, small, rfl⟩ := Base64.mem_encodeChars letter
    exact isBlank_letter n small
  · rw [List.eq_of_mem_replicate mark]
    rfl

/-- Blanks around a text that carries a target do not count. -/
theorem Carries.trim_between (h : Carries text target) {front back : String}
    (hf : isBlankText front = true) (hb : isBlankText back = true) :
    trim (front ++ text ++ back) = text := by
  have bare := Text.trim_of_notBlank h.notBlank
  rw [trim, String.toList_append, String.toList_append,
    Text.trimChars_append_right (List.all_eq_true.1 hb),
    Text.trimChars_append_left (List.all_eq_true.1 hf)]
  exact bare

/-! ## Hosts that are permitted -/

/-- An entry as it counts: without the blanks around it and in lower case. -/
def entryText (entry : String) : String :=
  lowerAscii (trim entry)

/-- The entry permits the host. -/
inductive Permits (host entry : String) : Prop where
  /-- An entry that is not blank and does not begin with a dot permits the host that it names. -/
  | named (filled : isBlankText entry = false) (dotless : ¬∃ domain, entryText entry = "." ++ domain)
      (same : host = entryText entry)
  /-- An entry that begins with a dot permits the hosts that end with it. -/
  | within {label domain : String} (dotted : entryText entry = "." ++ domain)
      (ends : host = label ++ "." ++ domain)

/-- The host of a target that is an address of the web, in lower case. -/
def WebHost (target host : String) : Prop :=
  ∃ url text, Url.parse? target = some url ∧ (url.scheme = "http" ∨ url.scheme = "https") ∧
    url.hostText? = some text ∧ host = lowerAscii text

/-- The target is an address of the web whose host one of the entries permits. -/
def Permitted (target : String) (domains : List String) : Prop :=
  ∃ host, WebHost target host ∧ ∃ entry ∈ domains, Permits host entry

/-- Only blank entries count as empty. -/
theorem entryText_eq_empty_iff : entryText entry = "" ↔ isBlankText entry = true := by
  have lowered : entryText entry = "" ↔ Text.trimChars entry.toList = [] := by
    simp [entryText, lowerAscii, trim]
  rw [lowered]
  constructor
  · intro empty
    rw [isBlankText, List.all_eq_true]
    intro c mem
    by_contra filled
    obtain ⟨front, back, cut⟩ := List.append_of_mem mem
    rw [cut, Text.trimChars_append_cons (by simpa using filled)] at empty
    simp at empty
  · intro blank
    have trimmed := Text.trimChars_append_left (List.all_eq_true.1 blank) []
    rwa [List.append_nil] at trimmed

/-- An entry with a dot in front permits the hosts with a further label in front of it. -/
theorem permits_iff_of_dotted {domain : String} (dotted : entryText entry = "." ++ domain) :
    Permits host entry ↔ ∃ label, host = label ++ "." ++ domain := by
  constructor
  · intro permitted
    cases permitted with
    | named _ dotless _ => exact absurd ⟨domain, dotted⟩ dotless
    | @within label domain' dotted' ends =>
        exact ⟨label, by rw [ends, String.append_assoc, ← dotted', dotted, String.append_assoc]⟩
  · rintro ⟨label, ends⟩
    exact .within dotted ends

/-- Any other entry permits the host that it names, unless it is blank. -/
theorem permits_iff_of_dotless (dotless : ¬∃ domain, entryText entry = "." ++ domain) :
    Permits host entry ↔ isBlankText entry = false ∧ host = entryText entry := by
  constructor
  · intro permitted
    cases permitted with
    | named filled _ same => exact ⟨filled, same⟩
    | within dotted _ => exact absurd ⟨_, dotted⟩ dotless
  · rintro ⟨filled, same⟩
    exact .named filled dotless same

theorem permits_iff : permits host entry = true ↔ Permits host entry := by
  have unfolded : permits host entry = if Text.startsWith "." (entryText entry) then
      Text.endsWith (entryText entry) host else !(entryText entry).isEmpty && host == entryText entry :=
    rfl
  rw [unfolded]
  split
  · rename_i dot
    obtain ⟨domain, dotted⟩ := Text.startsWith_iff.1 dot
    rw [Text.endsWith_iff, permits_iff_of_dotted dotted, dotted]
    simp only [String.append_assoc]
  · rename_i noDot
    have dotless : ¬∃ domain, entryText entry = "." ++ domain := fun dotted =>
      noDot (Text.startsWith_iff.2 dotted)
    have filled : (!(entryText entry).isEmpty) = true ↔ isBlankText entry = false := by
      rw [Bool.not_eq_true', ← Bool.not_eq_true, ← Bool.not_eq_true, String.isEmpty_iff,
        entryText_eq_empty_iff]
    rw [permits_iff_of_dotless dotless, Bool.and_eq_true, beq_iff_eq, filled]

/-- Blank entries permit nothing. -/
theorem not_permits_of_blank (blank : isBlankText entry = true) : ¬Permits host entry := by
  intro permitted
  cases permitted with
  | named filled _ _ => cases filled.symm.trans blank
  | within dotted _ =>
      rw [entryText_eq_empty_iff.2 blank] at dotted
      simpa using congrArg String.toList dotted

/-- An entry with a dot in front does not permit the domain behind the dot. -/
theorem not_permits_bare {domain : String} (dotted : entryText entry = "." ++ domain) :
    ¬Permits domain entry := by
  rw [permits_iff_of_dotted dotted]
  rintro ⟨label, ends⟩
  have longer := congrArg String.length ends
  simp only [String.length_append] at longer
  have dot : ".".length = 1 := rfl
  omega

/-- An entry that is written without blanks around it and in lower case counts as it stands. -/
theorem permits_iff_of_plain (plain : entryText entry = entry) :
    Permits host entry ↔
      (isBlankText entry = false ∧ (¬∃ domain, entry = "." ++ domain) ∧ host = entry) ∨
        ∃ label domain, entry = "." ++ domain ∧ host = label ++ entry := by
  constructor
  · intro permitted
    cases permitted with
    | named filled dotless same =>
        rw [plain] at dotless same
        exact .inl ⟨filled, dotless, same⟩
    | @within label domain dotted ends =>
        rw [plain] at dotted
        exact .inr ⟨label, domain, dotted, by rw [ends, dotted, String.append_assoc]⟩
  · rintro (⟨filled, dotless, same⟩ | ⟨label, domain, dotted, ends⟩)
    · exact .named filled (by rwa [plain]) (by rwa [plain])
    · exact .within (plain.trans dotted) (by rw [ends, dotted, String.append_assoc])

theorem webHost?_eq_some_iff : webHost? target = some host ↔ WebHost target host := by
  rw [webHost?, Option.bind_eq_bind, Option.bind_eq_some_iff]
  simp only [Option.ite_none_right_eq_some, Bool.or_eq_true, beq_iff_eq, Option.map_eq_some_iff]
  constructor
  · rintro ⟨url, read, web, text, found, rfl⟩
    exact ⟨url, text, read, web, found, rfl⟩
  · rintro ⟨url, text, read, web, found, rfl⟩
    exact ⟨url, read, web, text, found, rfl⟩

theorem permitted_iff : (webHost? target).any (fun host => domains.any (permits host)) = true ↔
    Permitted target domains := by
  simp only [Option.any_eq_true, List.any_eq_true, webHost?_eq_some_iff, permits_iff]
  rfl

instance (target : String) (domains : List String) : Decidable (Permitted target domains) :=
  decidable_of_iff _ permitted_iff

/-- Nothing is no address. -/
theorem not_permitted_empty : ¬Permitted "" domains := by
  rintro ⟨host, ⟨url, text, read, -⟩, -⟩
  have nothing : Url.parse? "" = none := by decide +kernel
  cases nothing.symm.trans read

/-- A target is followed when the request without the blanks around it carries it, and when it is an
address of the web whose host one of the entries permits. -/
theorem allowedTarget?_eq_some_iff :
    allowedTarget? requested domains = some target ↔
      Carries (trim requested) target ∧ Permitted target domains := by
  rw [allowedTarget?]
  split
  · rename_i empty
    rw [String.isEmpty_iff] at empty
    constructor
    · nofun
    · rintro ⟨carried, permitted⟩
      -- an empty text carries the empty target, which is no address
      rw [empty] at carried
      obtain rfl := target_eq_of_carries carried (written_encode (utf8 ""))
      exact absurd permitted not_permitted_empty
  · simp only [Option.bind_eq_bind, Option.bind_eq_some_iff, Option.ite_none_right_eq_some,
      decodeTarget?_eq_some_iff, webHost?_eq_some_iff, List.any_eq_true, permits_iff]
    constructor
    · rintro ⟨bytes, written, text, read, host, web, permitted, ⟨⟩⟩
      rw [← utf8_of_text? read] at written
      exact ⟨written, host, web, permitted⟩
    · rintro ⟨carried, host, web, permitted⟩
      exact ⟨utf8 target, carried, target, text?_utf8 target, host, web, permitted, rfl⟩

/-- Further entries permit no less. -/
theorem allowedTarget?_mono {domains' : List String} (more : domains ⊆ domains')
    (h : allowedTarget? requested domains = some target) :
    allowedTarget? requested domains' = some target := by
  obtain ⟨carried, host, web, entry, mem, permitted⟩ := allowedTarget?_eq_some_iff.1 h
  exact allowedTarget?_eq_some_iff.2 ⟨carried, host, web, entry, more mem, permitted⟩

/-! ## Coming back -/

/-- The text in which a target comes back: some of its padding may be stripped off, and there may be
blanks around it. -/
def Returned (target text : String) : Prop :=
  ∃ front bare back marks, isBlankText front = true ∧ isBlankText back = true ∧
    encodeTarget target = bare ++ String.ofList (List.replicate marks '=') ∧
    text = front ++ bare ++ back

theorem isAlphanum_letter : ∀ n < 64, (Base64.urlSafe.letter n).isAlphanum = true ∨
    Base64.urlSafe.letter n = '-' ∨ Base64.urlSafe.letter n = '_' := by
  decide

/-- The characters of the text that is put into a template. -/
theorem of_mem_encodeTarget {c : Char} (h : c ∈ (encodeTarget target).toList) :
    c.isAlphanum = true ∨ c = '-' ∨ c = '_' ∨ c = '=' := by
  rw [encodeTarget, Base64.encodePadded, String.toList_ofList, List.mem_append] at h
  rcases h with letter | mark
  · obtain ⟨n, small, rfl⟩ := Base64.mem_encodeChars letter
    rcases isAlphanum_letter n small with alphanum | dash | underscore
    · exact .inl alphanum
    · exact .inr (.inl dash)
    · exact .inr (.inr (.inl underscore))
  · exact .inr (.inr (.inr (List.eq_of_mem_replicate mark)))

/-- A target that comes back is carried by the text without the blanks around it. -/
theorem Returned.carries (h : Returned target text) : Carries (trim text) target := by
  obtain ⟨front, bare, back, marks, hf, hb, stripped, rfl⟩ := h
  have whole : Carries (bare ++ String.ofList (List.replicate marks '=')) target :=
    stripped ▸ written_encodePadded (utf8 target)
  have carried : Carries bare target := whole.of_append_marks
  rwa [carried.trim_between hf hb]

/-- A target that comes back is followed when it is permitted. -/
theorem allowedTarget?_of_returned (h : Returned target text) (permitted : Permitted target domains) :
    allowedTarget? text domains = some target :=
  allowedTarget?_eq_some_iff.2 ⟨h.carries, permitted⟩

/-- Nothing is followed when a target comes back that is not permitted. -/
theorem allowedTarget?_of_not_permitted (h : Returned target text)
    (foreign : ¬Permitted target domains) : allowedTarget? text domains = none := by
  rw [Option.eq_none_iff_forall_ne_some]
  intro followed found
  obtain ⟨carried, permitted⟩ := allowedTarget?_eq_some_iff.1 found
  rw [target_eq_of_carries h.carries carried] at foreign
  exact foreign permitted

end Gatehouse.Redirect
