import Gatehouse.Api.App
import Gatehouse.Proofs.Text.Affix
import Gatehouse.Proofs.Text.LetterCase
import Gatehouse.Proofs.Url.OrdinaryName
import Gatehouse.Proofs.Url.Parser

/-!
# The public host - Where audience and issuer come from

Without an audience and an issuer of their own, tokens are for and from the host of the public
address.  It is cut out of the text of the address: what follows `://`, up to a slash or a colon.  The
origin of the pages of the service's own site has the host that reading the address gives.  The two
agree where the address is plain and its host is written as it is read.  Elsewhere, with user
information, an address of version 6 or a query right after the host, the text that is cut out is no
host; it is that of the address only if this is written a second time.

Main definition: `NamedElsewhere`: the text that is cut out is no part of the host, but reads like it.

Main results:

- Theorem `Config.publicHost_of_cut`: the text that is cut out.
- Theorem `eqIgnoreCase_of_isOrdinary`: ordinary names in plain addresses are cut out.
- Theorem `publicHost_agrees_iff`: when audience and issuer are the host of the public address.
-/

namespace Gatehouse

open Text (FirstAt eqIgnoreCase)
open Url (EndsName IsNameChar IsOrdinary IsOwnHost IsPlain SchemeKind schemeKind endsAuthority)

/-! ## The text that is cut out -/

namespace Config

variable {c : Config} {lead name tail : List Char}

/-- The character ends the text that is cut out. -/
def endsHost (ch : Char) : Bool :=
  ch == '/' || ch == ':'

theorem takeWhile_of_stop (inside : ∀ ch ∈ name, endsHost ch = false)
    (stop : ∀ ch ∈ tail.head?, endsHost ch = true) :
    (name ++ tail).takeWhile (fun ch => ch != '/' && ch != ':') = name := by
  have alike (ch : Char) : (ch != '/' && ch != ':') = !endsHost ch := by
    simp [endsHost, bne]
  simp only [alike]
  rw [List.takeWhile_append_of_pos fun ch mem => by simp [inside ch mem]]
  cases tail with
  | nil => exact List.append_nil name
  | cons ch rest =>
      rw [List.takeWhile_cons_of_neg (by simp [stop ch rfl]), List.append_nil]

/-- Every text is parted in front of the first such character. -/
theorem exists_stop (cs : List Char) : ∃ name tail, cs = name ++ tail ∧
    (∀ ch ∈ name, endsHost ch = false) ∧ ∀ ch ∈ tail.head?, endsHost ch = true := by
  refine ⟨cs.takeWhile (!endsHost ·), cs.dropWhile (!endsHost ·),
    List.takeWhile_append_dropWhile.symm, ?_, ?_⟩
  · intro ch mem
    simpa using List.mem_takeWhile_imp mem
  · intro ch first
    have stopped := List.head?_dropWhile_not (!endsHost ·) cs
    rw [Option.mem_def.1 first] at stopped
    simpa using stopped

/-- The text behind the first `://` is cut out. -/
theorem publicHost_of_cut (cut : FirstAt "://".toList c.publicUrl.toList lead (name ++ tail))
    (inside : ∀ ch ∈ name, endsHost ch = false) (stop : ∀ ch ∈ tail.head?, endsHost ch = true) :
    c.publicHost = String.ofList name := by
  rw [publicHost, Text.cutAt?_eq_some_iff.2 cut]
  exact congrArg _ (takeWhile_of_stop inside stop)

/-- Without `://` the front of the text is cut out. -/
theorem publicHost_of_no_cut (bare : Text.cutAt? "://".toList c.publicUrl.toList = none)
    (written : c.publicUrl.toList = name ++ tail) (inside : ∀ ch ∈ name, endsHost ch = false)
    (stop : ∀ ch ∈ tail.head?, endsHost ch = true) : c.publicHost = String.ofList name := by
  rw [publicHost, bare, written]
  exact congrArg _ (takeWhile_of_stop inside stop)

/-- How the text that is cut out stands in the public address. -/
theorem publicHost_cases (c : Config) :
    ∃ name tail, c.publicHost = String.ofList name ∧ (∀ ch ∈ name, endsHost ch = false) ∧
      (∀ ch ∈ tail.head?, endsHost ch = true) ∧
      ((Text.cutAt? "://".toList c.publicUrl.toList = none ∧
          c.publicUrl.toList = name ++ tail) ∨
        ∃ lead, FirstAt "://".toList c.publicUrl.toList lead (name ++ tail)) := by
  cases found : Text.cutAt? "://".toList c.publicUrl.toList with
  | none =>
      obtain ⟨name, tail, written, inside, stop⟩ := exists_stop c.publicUrl.toList
      exact ⟨name, tail, publicHost_of_no_cut found written inside stop, inside, stop,
        .inl ⟨rfl, written⟩⟩
  | some cut =>
      obtain ⟨lead, rest⟩ := cut
      obtain ⟨name, tail, rfl, inside, stop⟩ := exists_stop rest
      have first := Text.cutAt?_eq_some_iff.1 found
      exact ⟨name, tail, publicHost_of_cut first inside stop, inside, stop, .inr ⟨lead, first⟩⟩

end Config

/-! ## The host by another name -/

/-- The text that is cut out of an address is read like its host, but it is no part of it. -/
inductive NamedElsewhere (kind : SchemeKind) (text : String) (host : String) : Prop where
  /-- Without `://` it is the scheme. -/
  | scheme {name rest : List Char} (bare : Text.cutAt? "://".toList text.toList = none)
      (written : text.toList = name ++ ':' :: rest)
      (inside : ∀ ch ∈ name, Config.endsHost ch = false)
      (same : eqIgnoreCase (String.ofList name) host = true)
  /-- It is followed by a colon behind which the host is read: it is the name of a user, or a piece of
  the host of a file. -/
  | user {lead name rest : List Char} (colonless : ':' ∉ lead)
      (written : text.toList = lead ++ "://".toList ++ name ++ ':' :: rest)
      (inside : ∀ ch ∈ name, Config.endsHost ch = false)
      (further : kind = .file ∨ '@' ∈ rest.takeWhile fun ch => !endsAuthority kind ch)
      (same : eqIgnoreCase (String.ofList name) host = true)
  /-- It stands behind a `://` that is not that of the scheme. -/
  | later {lead name tail : List Char} (colon : ':' ∈ lead)
      (cut : FirstAt "://".toList text.toList lead (name ++ tail))
      (inside : ∀ ch ∈ name, Config.endsHost ch = false)
      (stop : ∀ ch ∈ tail.head?, Config.endsHost ch = true)
      (same : eqIgnoreCase (String.ofList name) host = true)

namespace Api

variable {c : Config} {u : Url} {host : Url.Host} {kind : SchemeKind} {lead name tail : List Char}
  {text : String}

/-- Where no colon stands before it, a `://` is the first one. -/
theorem firstAt_of_colonless {cs : List Char} (colonless : ':' ∉ lead)
    (written : cs = lead ++ "://".toList ++ name ++ tail) :
    FirstAt "://".toList cs lead (name ++ tail) := by
  rw [List.append_assoc _ name] at written
  refine ⟨written, fun front back joined => ?_⟩
  rw [written, List.append_assoc, List.append_assoc, List.append_eq_append_iff] at joined
  rcases joined with ⟨more, rfl, -⟩ | ⟨more, rfl, joined⟩
  · exact List.length_append ▸ Nat.le_add_right _ _
  · cases more with
    | nil => exact Nat.le_of_eq (by simp)
    | cons ch more =>
        obtain rfl : ':' = ch := (List.cons.inj joined).1
        exact absurd (by simp) colonless

theorem not_endsHost_of_isNameChar {ch : Char} (h : IsNameChar ch) :
    Config.endsHost ch = false := by
  simp [Config.endsHost, h.ne '/' (by decide), h.ne ':' (by decide)]

/-- What follows the name in a plain address ends the text that is cut out. -/
theorem endsHost_of_endsName (ending : EndsName kind tail) :
    ∀ ch ∈ tail.head?, Config.endsHost ch = true := by
  cases ending with
  | nothing => exact nofun
  | path | port =>
      rintro ch ⟨⟩
      rfl

/-- The text that is cut out of a plain address is its name. -/
theorem publicHost_of_isPlain (plain : IsPlain kind c.publicUrl lead name tail) :
    c.publicHost = String.ofList name := by
  have cut := firstAt_of_colonless plain.scheme plain.written
  exact Config.publicHost_of_cut cut (fun ch mem => not_endsHost_of_isNameChar (plain.chars ch mem))
    (endsHost_of_endsName plain.ending)

/-- The text that is cut out is the one that the host is named by elsewhere. -/
theorem eqIgnoreCase_of_namedElsewhere {host : String} (h : NamedElsewhere kind c.publicUrl host) :
    eqIgnoreCase c.publicHost host = true := by
  cases h with
  | scheme bare written inside same =>
      rwa [Config.publicHost_of_no_cut bare written inside (by rintro ch ⟨⟩; rfl)]
  | @user lead name rest colonless written inside further same =>
      have cut := firstAt_of_colonless colonless written
      rwa [Config.publicHost_of_cut cut inside (by rintro ch ⟨⟩; rfl)]
  | later colon cut inside stop same => rwa [Config.publicHost_of_cut cut inside stop]

/-- The text that is cut out has no colon. -/
theorem colon_notMem_publicHost : ':' ∉ c.publicHost.toList := by
  obtain ⟨name, tail, cut, inside, -⟩ := c.publicHost_cases
  rw [cut, String.toList_ofList]
  exact fun colon => absurd (inside ':' colon) (by decide)

/-- It is no address of version 6. -/
theorem not_eqIgnoreCase_v6 (n : Nat) :
    eqIgnoreCase c.publicHost (Url.Host.v6 n).text = false := by
  refine Bool.eq_false_iff.2 fun same => ?_
  obtain ⟨ch, mem, lowered⟩ := Text.exists_of_eqIgnoreCase
    ((Text.eqIgnoreCase_comm _ _).trans same) (Url.colon_mem_v6 n)
  have colon : ch = ':' := Text.eq_of_lowerChar_eq lowered (by decide)
  exact colon_notMem_publicHost (colon ▸ mem)

/-- A text that is a host but for its case has characters, and only ones that may stand in a name. -/
theorem chars_of_eqIgnoreCase {written : String} (nonempty : written ≠ "")
    (read : Url.Host.read? kind written = some host)
    (same : eqIgnoreCase c.publicHost host.text = true) :
    c.publicHost.toList ≠ [] ∧ ∀ ch ∈ c.publicHost.toList, IsNameChar ch := by
  rcases Url.Host.text_of_read? read nonempty with ⟨n, rfl⟩ | ⟨named, chars⟩
  · cases (not_eqIgnoreCase_v6 n).symm.trans same
  · constructor
    · intro empty
      have lowered := beq_iff_eq.1 same
      rw [empty] at lowered
      exact named (by simpa using lowered.symm)
    · intro ch mem
      obtain ⟨other, inHost, lowered⟩ := Text.exists_of_eqIgnoreCase same mem
      exact (chars other inHost).of_lowerChar lowered

/-- Where the text that is cut out is the host but for its case, the address is plain, or the host is
named a second time. -/
theorem isPlain_or_namedElsewhere (read : Url.parse? c.publicUrl = some u)
    (hosted : u.authority.bind (·.host) = some host)
    (same : eqIgnoreCase c.publicHost host.text = true) :
    (∃ lead name tail, IsPlain (schemeKind u.scheme) c.publicUrl lead name tail) ∨
      NamedElsewhere (schemeKind u.scheme) c.publicUrl host.text := by
  obtain ⟨rest, split, nonempty, found⟩ := Url.host_of_parse? read hosted
  obtain ⟨name, tail, cut, inside, stop, place⟩ := c.publicHost_cases
  have chars := chars_of_eqIgnoreCase (by simpa using nonempty) found same
  rw [cut] at same chars
  rw [String.toList_ofList] at chars
  rcases place with ⟨bare, written⟩ | ⟨lead, first⟩
  · have colonless : ':' ∉ name := fun colon => absurd (inside ':' colon) (by decide)
    cases tail with
    | nil =>
        obtain ⟨scheme, counted, -⟩ := Url.splitScheme?_spec split
        have colon : ':' ∈ c.publicUrl.toList :=
          Url.mem_of_mem_significant (by simp [counted])
        rw [written, List.append_nil] at colon
        exact absurd colon colonless
    | cons ch rest =>
        have ends : ch = '/' ∨ ch = ':' := by simpa [Config.endsHost] using stop ch rfl
        rcases ends with rfl | rfl
        · have slash := Url.eq_colon_of_splitScheme? split (by decide) written colonless (by decide)
          exact absurd slash (by decide)
        · exact .inr (.scheme bare written inside same)
  · by_cases colon : ':' ∈ lead
    · exact .inr (.later colon first inside stop same)
    · have written := first.cut
      rw [← List.append_assoc] at written
      cases tail with
      | nil => exact .inl ⟨lead, name, _, written, colon, chars.1, chars.2, .nothing⟩
      | cons ch rest =>
          have ends : ch = '/' ∨ ch = ':' := by simpa [Config.endsHost] using stop ch rfl
          rcases ends with rfl | rfl
          · exact .inl ⟨lead, name, _, written, colon, chars.1, chars.2, .path rest⟩
          · by_cases further : schemeKind u.scheme = .file ∨
                '@' ∈ rest.takeWhile fun ch => !endsAuthority (schemeKind u.scheme) ch
            · exact .inr (.user colon written inside further same)
            · rw [not_or] at further
              exact .inl ⟨lead, name, _, written, colon, chars.1, chars.2,
                .port further.1 further.2⟩

/-- An origin that is told is that of an address with a host. -/
theorem exists_of_publicOrigin {origin : Bytes} (h : publicOrigin text = .ok origin) :
    ∃ u host, Url.parse? text = some u ∧ u.authority.bind (·.host) = some host := by
  unfold publicOrigin at h
  split at h
  · cases h
  · rename_i u read
    split at h
    · cases h
    · rename_i site told
      obtain ⟨_, shown, -⟩ := Option.map_eq_some_iff.1 told
      obtain ⟨host, hosted, -⟩ := Option.map_eq_some_iff.1 shown
      exact ⟨u, host, read, hosted⟩

/-- An ordinary name in a plain address is cut out as the host. -/
theorem eqIgnoreCase_of_isOrdinary (plain : IsPlain (schemeKind u.scheme) c.publicUrl lead name tail)
    (ordinary : IsOrdinary (String.ofList name)) (read : Url.parse? c.publicUrl = some u)
    (hosted : u.authority.bind (·.host) = some host) :
    eqIgnoreCase c.publicHost host.text = true := by
  obtain ⟨own, found, same⟩ := Url.isOwnHost_of_isOrdinary (schemeKind u.scheme) ordinary
  cases found.symm.trans (plain.read read hosted)
  rwa [publicHost_of_isPlain plain]

/-- Without an audience and an issuer of their own, tokens are for and from one text.  Where the
origin of the service's own pages can be told, this text is the host of the public address, but for
the case of letters, if and only if the address is plain and its name is read as the host of that
name, or the host is named elsewhere in the address.  It never is an address of version 6. -/
theorem publicHost_agrees_iff {origin : Bytes} (unset : c.audience = "" ∧ c.issuer = "")
    (accepted : publicOrigin c.publicUrl = .ok origin) :
    ∃ u host, Url.parse? c.publicUrl = some u ∧ u.authority.bind (·.host) = some host ∧
      c.issuerText = c.audienceText ∧
      (eqIgnoreCase c.audienceText host.text = true ↔
        (∃ lead name tail, IsPlain (schemeKind u.scheme) c.publicUrl lead name tail ∧
          IsOwnHost (schemeKind u.scheme) (String.ofList name)) ∨
        NamedElsewhere (schemeKind u.scheme) c.publicUrl host.text) ∧
      ∀ n, host = .v6 n → eqIgnoreCase c.audienceText host.text = false := by
  obtain ⟨u, host, read, hosted⟩ := exists_of_publicOrigin accepted
  have audience : c.audienceText = c.publicHost := by simp [Config.audienceText, unset.1]
  have issuer : c.issuerText = c.publicHost := by simp [Config.issuerText, unset.2]
  refine ⟨u, host, read, hosted, issuer.trans audience.symm, ?_⟩
  rw [audience]
  refine ⟨⟨fun same => ?_, ?_⟩, ?_⟩
  · rcases isPlain_or_namedElsewhere read hosted same with ⟨lead, name, tail, plain⟩ | elsewhere
    · rw [publicHost_of_isPlain plain] at same
      exact .inl ⟨lead, name, tail, plain, host, plain.read read hosted, same⟩
    · exact .inr elsewhere
  · rintro (⟨lead, name, tail, plain, own, found, same⟩ | elsewhere)
    · cases found.symm.trans (plain.read read hosted)
      rwa [publicHost_of_isPlain plain]
    · exact eqIgnoreCase_of_namedElsewhere elsewhere
  · rintro n rfl
    exact not_eqIgnoreCase_v6 n

/-- A service at the loopback address of version 6. -/
def loopbackConfig : Config :=
  { secret := "x", publicUrl := "https://[::1]:8080" }

/-- Its tokens are for and from an opening bracket. -/
theorem publicHost_agrees_iff_loopbackConfig :
    publicOrigin loopbackConfig.publicUrl = .ok (utf8 "https://[::1]:8080") ∧
      loopbackConfig.audienceText = "[" ∧ loopbackConfig.issuerText = "[" ∧
      (∃ u, Url.parse? loopbackConfig.publicUrl = some u ∧ u.hostText? = some "[::1]") ∧
      eqIgnoreCase loopbackConfig.audienceText "[::1]" = false := by
  have accepted : publicOrigin loopbackConfig.publicUrl = .ok (utf8 "https://[::1]:8080") := rfl
  have bracket : loopbackConfig.audienceText = "[" := by decide
  obtain ⟨u, host, read, hosted, same, -, never⟩ :=
    publicHost_agrees_iff (c := loopbackConfig) (by decide) accepted
  have parsed : Url.parse? loopbackConfig.publicUrl =
      some ⟨"https", some ⟨"", none, some (.v6 1), some 8080⟩, "/", none, none⟩ := rfl
  cases read.symm.trans parsed
  cases hosted
  exact ⟨accepted, bracket, same.trans bracket, ⟨_, read, rfl⟩, never 1 rfl⟩

end Api

end Gatehouse
