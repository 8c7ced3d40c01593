import Gatehouse.Proofs.Text.Split
import Gatehouse.Proofs.Url.Host
import Gatehouse.Url.Parser
import Mathlib.Data.List.TakeWhile

/-!
# Addresses - Where the host is read

The host of an address is read in one part of its text.  Where this part is depends on the scheme and on
what follows; in plain addresses it stands right after the scheme and two slashes.

Main definitions:

- `significantFront` and `significantBack`: the characters that count before and after others.
- `hostPart`: the part of an address after the scheme in which the host is read.
- `EndsName`: what may follow the host in a plain address.
- `IsPlain`: the address has a scheme, two slashes and a name before its end, its path or its port.

Main results:

- Theorem `significant_append_cons`: which characters of an address count.
- Theorem `splitScheme?_spec`: the scheme is what stands before the first colon.
- Theorem `host_of_authority?`: the host is read in its part.
- Theorem `host_of_parse?`: every host that an address has was read in its part.
- Theorem `IsPlain.read`: in a plain address the name is read as the host.
-/

namespace Gatehouse.Url

variable {text scheme : String} {kind : SchemeKind} {cs front back name tail rest : List Char}
  {a : Authority} {u : Url} {host : Host}

/-! ## Characters that count -/

/-- Does the character not count at the ends of an address? -/
def isOuter (c : Char) : Bool :=
  c.toNat ≤ 0x20

/-- Does the character count inside an address? -/
def isInner (c : Char) : Bool :=
  c != '\t' && c != '\n' && c != '\r'

/-- What counts before a visible character. -/
def significantFront (cs : List Char) : List Char :=
  (cs.dropWhile isOuter).filter isInner

/-- What counts after a visible character. -/
def significantBack (cs : List Char) : List Char :=
  ((cs.reverse.dropWhile isOuter).reverse).filter isInner

theorem isOuter_of_visible {c : Char} (h : 0x20 < c.toNat) : isOuter c = false :=
  decide_eq_false (Nat.not_le.2 h)

theorem isInner_of_visible {c : Char} (h : 0x20 < c.toNat) : isInner c = true := by
  have other (d : Char) (low : d.toNat ≤ 0x20) : c ≠ d := by
    rintro rfl
    omega
  simp [isInner, other '\t' (by decide), other '\n' (by decide), other '\r' (by decide)]

/-- Nothing is dropped from the back beyond a visible character. -/
theorem dropBack_append_cons {c : Char} (h : 0x20 < c.toNat) (front back : List Char) :
    ((front ++ c :: back).reverse.dropWhile isOuter).reverse =
      front ++ c :: (back.reverse.dropWhile isOuter).reverse := by
  have visible : isOuter c = false := isOuter_of_visible h
  rw [List.reverse_append, List.reverse_cons, List.append_assoc, List.dropWhile_append]
  split
  · rename_i empty
    rw [List.isEmpty_iff.1 empty, List.singleton_append,
      List.dropWhile_cons_of_neg (by simp [visible])]
    simp
  · simp

/-- A visible character counts, and after it what counts there. -/
theorem significantBack_cons {c : Char} (h : 0x20 < c.toNat) (back : List Char) :
    significantBack (c :: back) = c :: significantBack back := by
  rw [significantBack, ← List.nil_append (c :: back), dropBack_append_cons h, List.nil_append,
    List.filter_cons_of_pos (isInner_of_visible h), significantBack]

theorem significantBack_append (h : ∀ c ∈ cs, 0x20 < c.toNat) (tail : List Char) :
    significantBack (cs ++ tail) = cs ++ significantBack tail := by
  induction cs with
  | nil => rfl
  | cons c cs ih =>
      rw [List.forall_mem_cons] at h
      rw [List.cons_append, significantBack_cons h.1, ih h.2, List.cons_append]

/-- A visible character counts, and before and after it what counts there. -/
theorem significant_append_cons {c : Char} (h : 0x20 < c.toNat)
    (written : text.toList = front ++ c :: back) :
    significant text = significantFront front ++ c :: significantBack back := by
  have kept : (front ++ c :: back).dropWhile isOuter = front.dropWhile isOuter ++ c :: back := by
    rw [List.dropWhile_append]
    split
    · rename_i empty
      rw [List.isEmpty_iff.1 empty, List.dropWhile_cons_of_neg (by simp [isOuter_of_visible h]),
        List.nil_append]
    · rfl
  show ((text.toList.dropWhile isOuter).reverse.dropWhile isOuter).reverse.filter isInner = _
  rw [written, kept, dropBack_append_cons h, List.filter_append,
    List.filter_cons_of_pos (isInner_of_visible h), significantFront, significantBack]

/-- Nothing counts that was not written. -/
theorem mem_of_mem_significantFront {c : Char} (h : c ∈ significantFront cs) : c ∈ cs :=
  (List.dropWhile_sublist _).mem (List.mem_filter.1 h).1

theorem mem_of_mem_significant {c : Char} (h : c ∈ significant text) : c ∈ text.toList := by
  have kept := (List.mem_filter.1 h).1
  have trimmed := (List.dropWhile_sublist _).mem (List.mem_reverse.1 kept)
  exact (List.dropWhile_sublist _).mem (List.mem_reverse.1 trimmed)

/-! ## Scheme -/

/-- The character may stand in a scheme. -/
def isSchemeChar (c : Char) : Bool :=
  c.isAlphanum || c == '+' || c == '-' || c == '.'

/-- The scheme is what stands before the first colon. -/
theorem splitScheme?_spec (h : splitScheme? cs = some (scheme, rest)) :
    ∃ name, cs = name ++ ':' :: rest ∧ ∀ c ∈ name, isSchemeChar c = true := by
  cases cs with
  | nil => cases h
  | cons first more =>
      obtain ⟨-, h⟩ := Option.ite_none_right_eq_some.1 h
      let name := (first :: more).takeWhile isSchemeChar
      have joined : name ++ (first :: more).drop name.length = first :: more :=
        List.prefix_iff_eq_append.1 (List.takeWhile_prefix isSchemeChar)
      split at h
      · rename_i after
        cases h
        have dropped : (first :: more).drop name.length = ':' :: rest := after
        rw [dropped] at joined
        exact ⟨name, joined.symm, fun c mem => List.mem_takeWhile_imp mem⟩
      · cases h

/-- The first character of an address that may not stand in a scheme is a colon. -/
theorem eq_colon_of_splitScheme? {c : Char}
    (h : splitScheme? (significant text) = some (scheme, rest)) (visible : 0x20 < c.toNat)
    (written : text.toList = front ++ c :: back) (colonless : ':' ∉ front)
    (other : isSchemeChar c = false) : c = ':' := by
  obtain ⟨name, counted, allowed⟩ := splitScheme?_spec h
  rw [significant_append_cons visible written, List.append_eq_append_iff] at counted
  rcases counted with ⟨more, named, after⟩ | ⟨more, before, after⟩
  · cases more with
    | nil => exact (List.cons.inj after).1
    | cons d more =>
        have inside := allowed d (by simp [named])
        rw [← (List.cons.inj after).1, other] at inside
        cases inside
  · cases more with
    | nil => exact (List.cons.inj after).1.symm
    | cons d more =>
        obtain rfl : ':' = d := (List.cons.inj after).1
        refine absurd (mem_of_mem_significantFront ?_) colonless
        simp [before]

/-! ## The part with the host -/

/-- The part of an authority in which the host is read: what stands behind the last at sign, up to a
colon. -/
def namePart (kind : SchemeKind) (cs : List Char) : List Char :=
  let authority := cs.takeWhile fun c => !endsAuthority kind c
  hostChars false (authority.reverse.takeWhile (· != '@')).reverse

/-- The part of an address in which the host is read, given what follows the colon of the scheme. -/
def hostPart : SchemeKind → List Char → List Char
  | .web, cs => namePart .web (cs.dropWhile fun c => c == '/' || c == '\\')
  | .file, cs => (cs.drop 2).takeWhile fun c => !endsAuthority .file c
  | .other, cs => namePart .other (cs.drop 2)

/-- The host of an authority is read in its part; where this is empty there is none. -/
theorem host_of_authority? (h : authority? scheme kind cs = some (a, rest))
    (hosted : a.host = some host) :
    namePart kind cs ≠ [] ∧ Host.read? kind (String.ofList (namePart kind cs)) = some host := by
  unfold authority? at h
  extract_lets authority after hostPort hasUser at h
  split at h
  rename_i part afterHost read portChars isBareAt _ username password _
  extract_lets hasName finish at h
  clear_value portChars
  -- whatever the port is, the host is the one that was read
  have kept (parsed : Option Host) (done : finish parsed = some (a, rest)) : a.host = parsed := by
    simp only [finish] at done
    split at done
    · split at done
      · cases done
      · obtain ⟨port, -, done⟩ := Option.bind_eq_some_iff.1 done
        obtain ⟨-, same⟩ := Option.ite_none_left_eq_some.1 done
        cases same
        rfl
    · obtain ⟨port, -, done⟩ := Option.bind_eq_some_iff.1 done
      obtain ⟨-, same⟩ := Option.ite_none_left_eq_some.1 done
      cases same
      rfl
  split at h
  · cases hosted.symm.trans (kept none h)
  · rename_i nonempty
    obtain ⟨parsed, found, done⟩ := Option.bind_eq_some_iff.1 h
    obtain ⟨host', found', rfl⟩ := Option.map_eq_some_iff.1 found
    cases hosted.symm.trans (kept _ done)
    refine ⟨fun empty => nonempty (List.isEmpty_iff.2 empty), Eq.trans ?_ found'⟩
    rw [Host.read?]
    cases kind <;> rfl

/-- The host of a file is read in its part. -/
theorem host_of_file? (h : file? cs = some u) (hosted : u.authority.bind (·.host) = some host) :
    u.scheme = "file" ∧ hostPart .file cs ≠ [] ∧
      Host.read? .file (String.ofList (hostPart .file cs)) = some host := by
  unfold file? at h
  extract_lets isSlash bare at h
  split at h
  · split at h
    · extract_lets part after at h
      split at h
      · cases h
        cases hosted
      · rename_i nonempty
        split at h
        · cases h
          cases hosted
        · obtain ⟨found, read, h⟩ := Option.bind_eq_some_iff.1 h
          cases h
          refine ⟨rfl, fun empty => nonempty (List.isEmpty_iff.2 empty), read.trans ?_⟩
          exact (Option.ite_none_left_eq_some.1 hosted).2
    · cases h
      cases hosted
  · cases h
    cases hosted

theorem eq_file_of_schemeKind (h : schemeKind scheme = .file) : scheme = "file" := by
  unfold schemeKind at h
  split at h
  · cases h
  · split at h
    · rename_i file
      simpa using file
    · cases h

/-- Every host that an address has was read in its part. -/
theorem host_of_parse? (h : parse? text = some u)
    (hosted : u.authority.bind (·.host) = some host) :
    ∃ rest, splitScheme? (significant text) = some (u.scheme, rest) ∧
      hostPart (schemeKind u.scheme) rest ≠ [] ∧
      Host.read? (schemeKind u.scheme) (String.ofList (hostPart (schemeKind u.scheme) rest)) =
        some host := by
  obtain ⟨⟨scheme, rest⟩, split, h⟩ := Option.bind_eq_some_iff.1 h
  suffices same : u.scheme = scheme ∧ hostPart (schemeKind scheme) rest ≠ [] ∧
      Host.read? (schemeKind scheme) (String.ofList (hostPart (schemeKind scheme) rest)) =
        some host by
    obtain ⟨rfl, read⟩ := same
    exact ⟨rest, split, read⟩
  simp only at h
  cases kind : schemeKind scheme with
  | web =>
      rw [kind] at h
      obtain ⟨⟨a, after⟩, read, h⟩ := Option.bind_eq_some_iff.1 h
      cases h
      exact ⟨rfl, host_of_authority? read hosted⟩
  | file =>
      rw [kind] at h
      obtain ⟨named, read⟩ := host_of_file? h hosted
      exact ⟨named.trans (eq_file_of_schemeKind kind).symm, read⟩
  | other =>
      rw [kind] at h
      simp only at h
      split at h
      · obtain ⟨⟨a, after⟩, read, h⟩ := Option.bind_eq_some_iff.1 h
        cases h
        exact ⟨rfl, host_of_authority? read hosted⟩
      · cases h
        cases hosted

/-! ## Plain addresses -/

/-- What may follow the host in a plain address: nothing, a path, or a port, unless the colon before
the port belongs to a password or to the host of a file. -/
inductive EndsName (kind : SchemeKind) : List Char → Prop where
  | nothing : EndsName kind []
  | path (rest : List Char) : EndsName kind ('/' :: rest)
  | port {rest : List Char} (hosted : kind ≠ .file)
      (anonymous : '@' ∉ rest.takeWhile fun c => !endsAuthority kind c) :
      EndsName kind (':' :: rest)

/-- Characters that part something are no characters of a name. -/
theorem IsNameChar.ne {c : Char} (h : IsNameChar c) (d : Char)
    (special : d ∈ "/:?#@[]\\".toList) : c ≠ d := by
  rintro rfl
  exact h.2 special

/-- The characters of a name do not end an authority. -/
theorem IsNameChar.endsAuthority {c : Char} (h : IsNameChar c) :
    Url.endsAuthority kind c = false := by
  simp [Url.endsAuthority, h.ne '/' (by decide), h.ne '?' (by decide), h.ne '#' (by decide),
    h.ne '\\' (by decide)]

/-- What stands before a colon is the host, where no bracket is opened. -/
theorem hostChars_append (plain : ∀ c ∈ name, IsNameChar c)
    (after : tail = [] ∨ ∃ rest, tail = ':' :: rest) : hostChars false (name ++ tail) = name := by
  induction name with
  | nil => rcases after with rfl | ⟨rest, rfl⟩ <;> rfl
  | cons c name ih =>
      obtain ⟨first, others⟩ := List.forall_mem_cons.1 plain
      have colon := first.ne ':' (by decide)
      have opened := first.ne '[' (by decide)
      have closed := first.ne ']' (by decide)
      rw [List.cons_append, hostChars, if_neg (by simp [colon]), if_neg (by simp [opened]),
        if_neg (by simp [closed]), ih others]

/-- What follows the name in its authority is nothing, or a colon and no user information. -/
theorem EndsName.takeWhile (ending : EndsName kind tail) :
    (tail.takeWhile (fun c => !Url.endsAuthority kind c) = [] ∨
      ∃ rest, tail.takeWhile (fun c => !Url.endsAuthority kind c) = ':' :: rest) ∧
    '@' ∉ tail.takeWhile fun c => !Url.endsAuthority kind c := by
  cases ending with
  | nothing => exact ⟨.inl rfl, List.not_mem_nil⟩
  | path rest => exact ⟨.inl rfl, List.not_mem_nil⟩
  | @port rest hosted anonymous =>
      have taken : (':' :: rest).takeWhile (fun c => !Url.endsAuthority kind c) =
          ':' :: rest.takeWhile fun c => !Url.endsAuthority kind c :=
        List.takeWhile_cons_of_pos (by cases kind <;> rfl)
      rw [taken]
      exact ⟨.inr ⟨_, rfl⟩, by simp [anonymous]⟩

/-- In front of what may follow it, the name is the part with the host. -/
theorem namePart_append (plain : ∀ c ∈ name, IsNameChar c) (ending : EndsName kind tail) :
    namePart kind (name ++ tail) = name := by
  obtain ⟨after, anonymous⟩ := ending.takeWhile
  have authority : (name ++ tail).takeWhile (fun c => !endsAuthority kind c) =
      name ++ tail.takeWhile fun c => !endsAuthority kind c :=
    List.takeWhile_append_of_pos fun c mem => by simp [(plain c mem).endsAuthority]
  have whole : ∀ c ∈ (name ++ tail.takeWhile fun c => !endsAuthority kind c).reverse,
      (c != '@') = true := by
    intro c mem
    rcases List.mem_append.1 (List.mem_reverse.1 mem) with own | later
    · simpa using (plain c own).ne '@' (by decide)
    · have other : c ≠ '@' := by
        rintro rfl
        exact anonymous later
      simpa using other
  simp only [namePart]
  rw [authority, List.takeWhile_eq_self_iff.2 whole, List.reverse_reverse,
    hostChars_append plain after]

/-- In a plain address the host is read in the name. -/
theorem hostPart_append (nonempty : name ≠ []) (plain : ∀ c ∈ name, IsNameChar c)
    (ending : EndsName kind tail) : hostPart kind ("//".toList ++ name ++ tail) = name := by
  cases kind with
  | web =>
      have slashes : ("//".toList ++ name ++ tail).dropWhile (fun c => c == '/' || c == '\\') =
          name ++ tail := by
        obtain ⟨c, rest, rfl⟩ := List.exists_cons_of_ne_nil nonempty
        have first := plain c List.mem_cons_self
        have stops : ¬(c == '/' || c == '\\') = true := by
          simp [first.ne '/' (by decide), first.ne '\\' (by decide)]
        show (c :: (rest ++ tail)).dropWhile (fun c => c == '/' || c == '\\') = _
        rw [List.dropWhile_cons, if_neg stops, List.cons_append]
      rw [hostPart, slashes, namePart_append plain ending]
  | file =>
      show (name ++ tail).takeWhile _ = name
      rw [List.takeWhile_append_of_pos fun c mem => by simp [(plain c mem).endsAuthority]]
      cases ending with
      | nothing => exact List.append_nil name
      | path rest => exact List.append_nil name
      | port hosted anonymous => exact absurd rfl hosted
  | other => exact namePart_append plain ending

/-- What does not count makes no difference to the characters before the end of an authority. -/
theorem mem_of_mem_takeWhile_filter {p q : Char → Bool} (silent : ∀ c, q c = false → p c = true)
    {c : Char} (h : c ∈ (cs.filter q).takeWhile p) : c ∈ cs.takeWhile p := by
  induction cs with
  | nil => exact h
  | cons d cs ih =>
      by_cases counts : q d = true
      · rw [List.filter_cons_of_pos counts] at h
        by_cases goes : p d = true
        · rw [List.takeWhile_cons_of_pos goes] at h ⊢
          rcases List.mem_cons.1 h with rfl | later
          · exact List.mem_cons_self
          · exact List.mem_cons_of_mem _ (ih later)
        · rw [List.takeWhile_cons_of_neg goes] at h
          cases h
      · have goes := silent d (by simpa using counts)
        rw [List.filter_cons_of_neg counts] at h
        rw [List.takeWhile_cons_of_pos goes]
        exact List.mem_cons_of_mem _ (ih h)

/-- No character that does not count ends an authority. -/
theorem endsAuthority_of_not_isInner {c : Char} (h : isInner c = false) :
    endsAuthority kind c = false := by
  simp only [isInner, Bool.and_eq_false_iff, bne_eq_false_iff_eq] at h
  rcases h with (rfl | rfl) | rfl <;> cases kind <;> rfl

/-- What follows the name does so too when only the characters are left that count. -/
theorem EndsName.significant (ending : EndsName kind tail) :
    EndsName kind (significantBack tail) := by
  cases ending with
  | nothing => exact .nothing
  | path rest =>
      rw [significantBack_cons (by decide)]
      exact .path _
  | @port rest hosted anonymous =>
      rw [significantBack_cons (by decide)]
      refine .port hosted fun user => anonymous ?_
      have taken := mem_of_mem_takeWhile_filter
        (fun c silent => by simp [endsAuthority_of_not_isInner silent]) user
      have front : (rest.reverse.dropWhile isOuter).reverse <+: rest := by
        simpa using List.reverse_prefix.2 (List.dropWhile_suffix (l := rest.reverse) isOuter)
      obtain ⟨back, joined⟩ := front
      rw [← joined, List.takeWhile_append]
      split
      · exact List.mem_append_left _ ((List.takeWhile_prefix _).mem taken)
      · exact taken

/-- The address has a scheme, two slashes and a name before its end, its path or its port. -/
structure IsPlain (kind : SchemeKind) (text : String) (lead name tail : List Char) : Prop where
  written : text.toList = lead ++ "://".toList ++ name ++ tail
  scheme : ':' ∉ lead
  nonempty : name ≠ []
  chars : ∀ c ∈ name, IsNameChar c
  ending : EndsName kind tail

/-- In a plain address the name is read as the host. -/
theorem IsPlain.read {lead : List Char} (plain : IsPlain (schemeKind u.scheme) text lead name tail)
    (h : parse? text = some u) (hosted : u.authority.bind (·.host) = some host) :
    Host.read? (schemeKind u.scheme) (String.ofList name) = some host := by
  obtain ⟨rest, split, -, read⟩ := host_of_parse? h hosted
  have visible : ∀ c ∈ "//".toList ++ name, 0x20 < c.toNat := by
    intro c mem
    rcases List.mem_append.1 mem with slash | own
    · obtain rfl : c = '/' := by simpa using slash
      decide
    · exact (plain.chars c own).1
  have counted : significant text =
      significantFront lead ++ ':' :: ("//".toList ++ name ++ significantBack tail) := by
    rw [← significantBack_append visible]
    refine significant_append_cons (by decide) ?_
    rw [plain.written]
    simp
  obtain ⟨scheme, written, allowed⟩ := splitScheme?_spec split
  have colonless : ':' ∉ scheme := fun colon => absurd (allowed ':' colon) (by decide)
  have leadless : ':' ∉ significantFront lead := fun colon =>
    plain.scheme (mem_of_mem_significantFront colon)
  have cut := congrArg (Text.cutChars? ':') (written.symm.trans counted)
  rw [Text.cutChars?_append colonless, Text.cutChars?_append leadless] at cut
  cases cut
  rwa [hostPart_append plain.nonempty plain.chars plain.ending.significant] at read

end Gatehouse.Url
