import Gatehouse.Net.ClientAddress
import Mathlib.Data.List.Basic

/-!
# Mapped addresses - One host under two addresses

A host of version 4 that calls a socket of version 6 is seen under its mapped address.  Networks and
trusted proxies take the two addresses of the host for two hosts: what is said of version 4 is not
heard for the mapped address, and what is heard for it is what some networks of version 6 say of the
mapped addresses.

Main definitions:

- `Address.carried?`, `Network.carried?` and `TrustedNetworks.carried`: what version 6 says of mapped
  addresses, in version 4.
- `noted`: the nearest hop names an address.

Main results:

- Theorem `Network.contains_mappedOf` and theorem `TrustedNetworks.contains_mappedOf`: who has a
  mapped address as a member.
- Theorem `TrustedNetworks.clientAddress_of_noted` and theorem
  `TrustedNetworks.clientAddress_of_not_noted`: the clients of a connection under both addresses.
-/

namespace Gatehouse.Net

variable {a : BitVec 32}

/-! ## Addresses -/

/-- The bits in front of the address that a mapped address carries. -/
def mappedLead : BitVec 96 := 0xFFFF

theorem mappedOf_eq (a : BitVec 32) : mappedOf a = .v6 (mappedLead ++ a) := by
  have bits : BitVec.ofNat 128 (0xFFFF * Word.bound32 + a.toNat) = mappedLead ++ a := by
    apply BitVec.eq_of_toNat_eq
    have low : a.toNat < 2 ^ 32 := a.isLt
    rw [BitVec.toNat_append, ← Nat.shiftLeft_add_eq_or_of_lt low, BitVec.toNat_ofNat,
      Nat.shiftLeft_eq]
    have lead : mappedLead.toNat = 0xFFFF := rfl
    rw [lead, Word.bound32]
    omega
  rw [mappedOf, bits]

/-- The number of a mapped address carries the number of the address. -/
theorem mapped?_append (a : BitVec 32) : mapped? (mappedLead ++ a).toNat = some a.toNat := by
  have low : a.toNat < 2 ^ 32 := a.isLt
  have number : (mappedLead ++ a).toNat = 0xFFFF * 2 ^ 32 + a.toNat := by
    rw [BitVec.toNat_append, ← Nat.shiftLeft_add_eq_or_of_lt low, Nat.shiftLeft_eq]
    rfl
  rw [mapped?, number, Word.bound32, if_pos (by omega)]
  congr 1
  omega

/-- A mapped address denotes the host of the address that it carries. -/
theorem Address.unmapped_mappedOf (a : BitVec 32) : (mappedOf a).unmapped = .v4 a := by
  rw [mappedOf_eq, unmapped]
  simp only [mapped?_append, BitVec.ofNat_toNat, BitVec.setWidth_eq]

/-- The address that a mapped address carries; no other address carries one. -/
def Address.carried? : Address → Option Address
  | .v4 _ => none
  | .v6 bits => (mapped? bits.toNat).map fun n => .v4 (BitVec.ofNat 32 n)

/-- Only the mapped address of an address carries it. -/
theorem Address.eq_mappedOf_iff {x : Address} : x = mappedOf a ↔ x.carried? = some (.v4 a) := by
  constructor
  · rintro rfl
    rw [mappedOf_eq, carried?, mapped?_append]
    simp
  · intro carries
    cases x with
    | v4 bits => cases carries
    | v6 bits =>
        obtain ⟨n, carried, same⟩ := Option.map_eq_some_iff.1 carries
        rw [mapped?] at carried
        split at carried
        · rename_i lead
          obtain rfl := Option.some.inj carried
          obtain rfl := Address.v4.inj same
          rw [Word.bound32] at lead
          rw [mappedOf, BitVec.toNat_ofNat]
          congr 1
          apply BitVec.eq_of_toNat_eq
          rw [BitVec.toNat_ofNat, Word.bound32]
          have range : bits.toNat < 2 ^ 128 := bits.isLt
          omega
        · cases carried

/-! ## Networks -/

/-- Two words agree in front of their last bits when they agree in each bit that counts. -/
theorem ushiftRight_eq_iff {w : Nat} {x y : BitVec w} {k : Nat} :
    x >>> k = y >>> k ↔ ∀ i, k ≤ i → i < w → x.getLsbD i = y.getLsbD i := by
  constructor
  · intro same i hi _
    have shifted := congrArg (fun z => z.getLsbD (i - k)) same
    simp only [BitVec.getLsbD_ushiftRight] at shifted
    rwa [Nat.add_sub_cancel' hi] at shifted
  · intro agree
    apply BitVec.eq_of_getLsbD_eq
    intro i hi
    rw [BitVec.getLsbD_ushiftRight, BitVec.getLsbD_ushiftRight]
    by_cases inside : k + i < w
    · exact agree (k + i) (Nat.le_add_right k i) inside
    · rw [BitVec.getLsbD_of_ge x _ (by omega), BitVec.getLsbD_of_ge y _ (by omega)]

namespace Network

/-- Is the network one of version 4? -/
def isV4 : Network → Bool
  | .v4 _ _ => true
  | .v6 _ _ => false

/-- The network of version 4 whose members are carried by the mapped members of a network; there is
none where no member is mapped. -/
def carried? : Network → Option Network
  | .v4 _ _ => none
  | .v6 bits length =>
    if (Network.v6 bits (min length 96)).contains (mappedOf 0) then
      some (.v4 (bits.setWidth 32) (length - 96))
    else none

/-- A network of version 6 has a mapped address as a member when it agrees with the bits of its
prefix. -/
theorem contains_v6_mappedOf_iff (bits : BitVec 128) (length : Nat) (a : BitVec 32) :
    (Network.v6 bits length).contains (mappedOf a) = true ↔
      ∀ i, 128 - length ≤ i → i < 128 → (mappedLead ++ a).getLsbD i = bits.getLsbD i := by
  rw [mappedOf_eq, contains, beq_iff_eq, ushiftRight_eq_iff]

/-- A network has a mapped address as a member when the network that it carries has the address. -/
theorem contains_mappedOf (n : Network) (a : BitVec 32) :
    n.contains (mappedOf a) = n.carried?.any (·.contains (.v4 a)) := by
  cases n with
  | v4 bits length =>
      rw [mappedOf_eq]
      rfl
  | v6 bits length =>
      have whole := contains_v6_mappedOf_iff bits length a
      have front := contains_v6_mappedOf_iff bits (min length 96) 0
      have back : (Network.v4 (bits.setWidth 32) (length - 96)).contains (.v4 a) = true ↔
          ∀ i, 32 - (length - 96) ≤ i → i < 32 →
            a.getLsbD i = (bits.setWidth 32).getLsbD i := by
        rw [contains, beq_iff_eq, ushiftRight_eq_iff]
      simp only [BitVec.getLsbD_append, BitVec.getLsbD_setWidth] at whole front back
      rw [Bool.eq_iff_iff, carried?]
      split
      · rename_i leads
        rw [Option.any_some, whole, back]
        have agree := front.1 leads
        constructor
        · intro all i hi low
          simpa [low] using all i (by omega) (by omega)
        · intro all i hi inside
          by_cases low : i < 32
          · simpa [low] using all i (by omega) low
          · simpa [low] using agree i (by omega) inside
      · rename_i strays
        rw [front] at strays
        rw [whole]
        simp only [Option.any_none, Bool.false_eq_true, iff_false]
        intro all
        refine strays fun i hi inside => ?_
        have low : ¬i < 32 := by omega
        simpa [low] using all i (by omega) inside

/-- A network of version 4 says nothing of mapped addresses. -/
theorem carried?_of_isV4 {n : Network} (h : n.isV4 = true) : n.carried? = none := by
  cases n with
  | v4 bits length => rfl
  | v6 bits length => cases h

end Network

/-! ## Trusted proxies -/

/-- The nearest hop names an address, so that a walk leaves the address that it starts from. -/
def noted (headers : Http.Headers) : Bool :=
  ((hops headers).getLast?.bind Address.ofText?).isSome

namespace TrustedNetworks

variable {t : TrustedNetworks} {headers : Http.Headers}

/-- The networks that are trusted through their mapped members. -/
def carried (t : TrustedNetworks) : TrustedNetworks :=
  ⟨t.networks.filterMap Network.carried?⟩

/-- A mapped address is trusted when the networks that are carried have the address. -/
theorem contains_mappedOf (t : TrustedNetworks) (a : BitVec 32) :
    t.contains (mappedOf a) = t.carried.contains (.v4 a) := by
  unfold contains carried
  rw [List.any_filterMap]
  congr 1
  funext n
  rw [Network.contains_mappedOf]
  cases n.carried? <;> rfl

/-- Networks of version 4 do not make a mapped address trusted. -/
theorem contains_mappedOf_of_isV4 (h : ∀ n ∈ t.networks, n.isV4 = true) (a : BitVec 32) :
    t.contains (mappedOf a) = false := by
  have none : t.networks.filterMap Network.carried? = [] :=
    List.filterMap_eq_nil_iff.2 fun n hn => Network.carried?_of_isV4 (h n hn)
  rw [contains_mappedOf, carried, none]
  rfl

/-- Where the nearest hop names an address, a walk ends at the same address from everywhere. -/
theorem walk_of_noted (h : noted headers = true) (p q : Address) :
    t.walk p (hops headers).reverse = t.walk q (hops headers).reverse := by
  rw [noted, ← List.head?_reverse] at h
  cases nearest : (hops headers).reverse with
  | nil =>
      rw [nearest] at h
      cases h
  | cons hop rest =>
      rw [nearest, List.head?_cons, Option.bind_some] at h
      obtain ⟨address, named⟩ := Option.isSome_iff_exists.1 h
      simp only [walk, named]

/-- Where the nearest hop names no address, a walk stays where it starts. -/
theorem walk_of_not_noted (h : noted headers = false) (p : Address) :
    t.walk p (hops headers).reverse = p := by
  rw [noted, ← List.head?_reverse] at h
  cases nearest : (hops headers).reverse with
  | nil => rfl
  | cons hop rest =>
      rw [nearest, List.head?_cons, Option.bind_some] at h
      have unnamed : Address.ofText? hop = none := by simpa using h
      simp only [walk, unnamed]

/-- Trusted peers that pass on a hop that names an address have the same client. -/
theorem clientAddress_of_noted {p q : Address} (hp : t.contains p = true)
    (hq : t.contains q = true) (h : noted headers = true) :
    t.clientAddress headers (some p) = t.clientAddress headers (some q) := by
  rw [clientAddress, clientAddress, Option.map_some, Option.map_some, if_pos hp, if_pos hq,
    walk_of_noted h p q]

/-- A peer that is not trusted or does not pass on a hop that names an address is the client. -/
theorem clientAddress_of_not_noted {p : Address}
    (h : (t.contains p && noted headers) = false) :
    t.clientAddress headers (some p) = some p := by
  rw [clientAddress, Option.map_some]
  split
  · rename_i known
    rw [known, Bool.true_and] at h
    rw [walk_of_not_noted h]
  · rfl

end TrustedNetworks

end Gatehouse.Net
