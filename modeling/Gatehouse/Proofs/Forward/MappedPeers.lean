import Gatehouse.Forward.Rules
import Gatehouse.Proofs.Net.Mapped

/-!
# Access rules - Connections under a mapped address

A host of version 4 connects under its own address or, through a socket of version 6, under its mapped
address.  Rules that name addresses and networks of version 4 see only the first: under the mapped
address the host gets the verdict of the rules that name mapped addresses.

Main definitions:

- `Rule.carried` and `Entry.carried`: what rules say of mapped addresses, in version 4.
- `TreatedAlike`: it makes no difference under which of its addresses a host connects.

Main results:

- Theorem `Entry.verdict_mappedOf`: the verdict for a mapped address.
- Theorem `Entry.verdict_mappedOf_of_isV4`: rules of version 4 do not see a mapped address at all.
- Theorem `mappedPeer_alike_iff`: when both addresses are treated alike.
-/

namespace Gatehouse.Forward

open Http (Headers)
open Net (Address Network TrustedNetworks mappedOf noted)

variable {a : BitVec 32} {t : TrustedNetworks} {headers : Headers} {e : Entry}
  {bearer : Option String}

/-! ## Rules -/

namespace Rule

/-- The rule that says of addresses what a rule says of the mapped addresses that carry them. -/
def carried (r : Rule) : Rule :=
  { r with
    address := r.address.bind Address.carried?
    network := r.network.bind Network.carried? }

/-- The rule names no address or network of version 6. -/
def isV4 (r : Rule) : Bool :=
  (r.address.all fun x => x.carried?.isNone) && r.network.all Network.isV4

/-- A rule matches a mapped address when the rule that is carried matches the address. -/
theorem matches_mappedOf (r : Rule) (a : BitVec 32) (bearer : Option String) :
    r.matches (some (mappedOf a)) bearer = r.carried.matches (some (.v4 a)) bearer := by
  have named : (r.address.isSome && r.address == some (mappedOf a)) =
      ((r.address.bind Address.carried?).isSome &&
        r.address.bind Address.carried? == some (.v4 a)) := by
    cases r.address with
    | none => rfl
    | some x =>
        rw [Bool.eq_iff_iff]
        simp only [Option.isSome_some, Bool.true_and, beq_iff_eq, Option.some.injEq,
          Option.bind_some, Bool.and_eq_true, Address.eq_mappedOf_iff]
        constructor
        · intro carries
          simp [carries]
        · exact And.right
  have within : (r.network.any fun n => (some (mappedOf a)).any n.contains) =
      ((r.network.bind Network.carried?).any fun n => (some (Address.v4 a)).any n.contains) := by
    cases r.network with
    | none => rfl
    | some n =>
        simp only [Option.any_some, Option.bind_some]
        exact n.contains_mappedOf a
  unfold Rule.matches carried
  rw [named, within]

/-- A rule of version 4 matches a mapped address as it matches a client without an address. -/
theorem matches_mappedOf_of_isV4 {r : Rule} (h : r.isV4 = true) (a : BitVec 32)
    (bearer : Option String) : r.matches (some (mappedOf a)) bearer = r.matches none bearer := by
  rw [isV4, Bool.and_eq_true] at h
  have unnamed : r.address.bind Address.carried? = none := by
    cases named : r.address with
    | none => rfl
    | some x => simpa [named] using h.1
  have outside : r.network.bind Network.carried? = none := by
    cases within : r.network with
    | none => rfl
    | some n =>
        rw [within, Option.all_some] at h
        exact Network.carried?_of_isV4 h.2
  rw [matches_mappedOf, carried, unnamed, outside]
  unfold Rule.matches
  cases r.address <;> cases r.network <;> rfl

end Rule

/-! ## Entries -/

namespace Entry

/-- The entry with the rules that are carried. -/
def carried (e : Entry) : Entry :=
  { e with rules := e.rules.map Rule.carried }

/-- A verdict depends on which rules match. -/
theorem verdict_congr {client client' : Option Address}
    (h : ∀ r ∈ e.rules, r.matches client bearer = r.matches client' bearer) :
    e.verdict client bearer = e.verdict client' bearer := by
  unfold verdict
  rw [List.filter_congr h]

/-- The verdict for a mapped address is that of the rules that are carried. -/
theorem verdict_mappedOf (e : Entry) (a : BitVec 32) (bearer : Option String) :
    e.verdict (some (mappedOf a)) bearer = e.carried.verdict (some (.v4 a)) bearer := by
  have hits : e.carried.rules.filter (·.matches (some (.v4 a)) bearer) =
      (e.rules.filter (·.matches (some (mappedOf a)) bearer)).map Rule.carried := by
    rw [carried, List.filter_map]
    congr 1
    refine List.filter_congr fun r _ => ?_
    exact (r.matches_mappedOf a bearer).symm
  have grants : (fun r : Rule => r.grant?) ∘ Rule.carried = fun r => r.grant? := rfl
  unfold verdict
  rw [hits]
  simp only [List.any_map, List.findSome?_map, grants]
  rfl

/-- Rules of version 4 do not see a mapped address at all. -/
theorem verdict_mappedOf_of_isV4 (h : ∀ r ∈ e.rules, r.isV4 = true) (a : BitVec 32)
    (bearer : Option String) :
    e.verdict (some (mappedOf a)) bearer = e.verdict none bearer :=
  verdict_congr fun r hr => Rule.matches_mappedOf_of_isV4 (h r hr) a bearer

end Entry

/-! ## Connections -/

/-- It makes no difference to the trust, to the host that counts as the client and to the verdict
whether a host connects under its address or under its mapped address. -/
structure TreatedAlike (t : TrustedNetworks) (headers : Headers) (e : Entry)
    (bearer : Option String) (a : BitVec 32) : Prop where
  trust : t.contains (.v4 a) = t.contains (mappedOf a)
  host : (t.clientAddress headers (some (.v4 a))).map Address.unmapped =
    (t.clientAddress headers (some (mappedOf a))).map Address.unmapped
  verdict : e.verdict (t.clientAddress headers (some (.v4 a))) bearer =
    e.verdict (t.clientAddress headers (some (mappedOf a))) bearer

/-- Both addresses of a host are treated alike exactly when the networks say the same of both and,
unless a trusted host passes on a hop that names an address, so do the rules. -/
theorem treatedAlike_iff :
    TreatedAlike t headers e bearer a ↔
      t.contains (.v4 a) = t.carried.contains (.v4 a) ∧
      ((t.contains (.v4 a) && noted headers) = true ∨
        e.verdict (some (.v4 a)) bearer = e.carried.verdict (some (.v4 a)) bearer) := by
  rw [← t.contains_mappedOf, ← e.verdict_mappedOf]
  constructor
  · intro alike
    refine ⟨alike.trust, ?_⟩
    cases passes : t.contains (.v4 a) && noted headers with
    | true => exact .inl rfl
    | false =>
        have passes' : (t.contains (mappedOf a) && noted headers) = false := by
          rw [← alike.trust, passes]
        have verdict := alike.verdict
        rw [t.clientAddress_of_not_noted passes, t.clientAddress_of_not_noted passes'] at verdict
        exact .inr verdict
  · rintro ⟨trust, same⟩
    cases passes : t.contains (.v4 a) && noted headers with
    | true =>
        rw [Bool.and_eq_true] at passes
        have client := t.clientAddress_of_noted passes.1 (trust ▸ passes.1) passes.2
        exact ⟨trust, by rw [client], by rw [client]⟩
    | false =>
        have passes' : (t.contains (mappedOf a) && noted headers) = false := by
          rw [← trust, passes]
        have verdict := same.resolve_left (by simp [passes])
        refine ⟨trust, ?_, ?_⟩
        · rw [t.clientAddress_of_not_noted passes, t.clientAddress_of_not_noted passes',
            Option.map_some, Option.map_some, Address.unmapped_mappedOf]
          rfl
        · rw [t.clientAddress_of_not_noted passes, t.clientAddress_of_not_noted passes', verdict]

/-- A host is treated alike under its address and its mapped address exactly when the trusted networks
and, unless it is trusted and passes on a hop that names an address, the rules say of mapped addresses
what they say of the addresses that these carry.  Networks and rules of version 4 do not: no mapped
address is trusted through such networks, and such rules give it the verdict of a client without an
address, so that one that denies the host is not heard. -/
theorem mappedPeer_alike_iff (a : BitVec 32) (t : TrustedNetworks) (headers : Headers) (e : Entry)
    (bearer : Option String) :
    (TreatedAlike t headers e bearer a ↔
      t.contains (.v4 a) = t.carried.contains (.v4 a) ∧
      ((t.contains (.v4 a) && noted headers) = true ∨
        e.verdict (some (.v4 a)) bearer = e.carried.verdict (some (.v4 a)) bearer)) ∧
    ((∀ n ∈ t.networks, n.isV4 = true) → t.contains (mappedOf a) = false) ∧
    ((∀ r ∈ e.rules, r.isV4 = true) →
      e.verdict (some (mappedOf a)) bearer = e.verdict none bearer) :=
  ⟨treatedAlike_iff, fun h => t.contains_mappedOf_of_isV4 h a,
    fun h => e.verdict_mappedOf_of_isV4 h a bearer⟩

/-- The proxies in 10.0.0.0/8 are trusted. -/
def innerProxies : TrustedNetworks :=
  ⟨[.v4 0x0A000000 8]⟩

/-- Nobody gets in from 10.0.0.0/8. -/
def closedEntry : Entry :=
  ⟨⟨"", .empty⟩, [], true, [⟨none, some (.v4 0x0A000000 8), none, .deny⟩]⟩

/-- 10.0.0.66 is a trusted proxy and is denied under its address, and is neither under its mapped
address. -/
theorem closedEntry_misses_mapped :
    (∀ n ∈ innerProxies.networks, n.isV4 = true) ∧
    (∀ r ∈ closedEntry.rules, r.isV4 = true) ∧
    innerProxies.contains (.v4 0x0A000042) = true ∧
    innerProxies.contains (mappedOf 0x0A000042) = false ∧
    closedEntry.verdict (some (.v4 0x0A000042)) none = .deny ∧
    closedEntry.verdict (some (mappedOf 0x0A000042)) none = .silent ∧
    ¬TreatedAlike innerProxies .empty closedEntry none 0x0A000042 := by
  have networks : ∀ n ∈ innerProxies.networks, n.isV4 = true := by decide
  have rules : ∀ r ∈ closedEntry.rules, r.isV4 = true := by decide
  obtain ⟨alike, unknown, unseen⟩ :=
    mappedPeer_alike_iff 0x0A000042 innerProxies .empty closedEntry none
  refine ⟨networks, rules, by decide, unknown networks, by decide, ?_, ?_⟩
  · rw [unseen rules]
    decide
  · rw [alike]
    decide

end Gatehouse.Forward
