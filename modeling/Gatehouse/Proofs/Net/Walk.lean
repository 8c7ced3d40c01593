import Gatehouse.Proofs.Net.ClientAddress
import Gatehouse.Proofs.Text.Split

/-!
# The client behind proxies - Where the walk over the hops ends

The walk starts from a trusted peer and goes from the last hop to the first.  It ends at the first
stranger that it meets behind nothing but proxies; where a hop that names no address comes before, it
ends in front of that hop, and otherwise at the first hop of all.

Main definitions:

- `hopsOf`: the hops that some readable lines name.
- `LastWith`: a list is cut at the last member with a property.
- `IsProxy`, `IsStranger` and `IsBroken`: what a hop can be.
- `Reached`: the address that a walk ends at, by what the hops are.

Main results:

- Theorem `TrustedNetworks.walk_proxies`: a walk passes proxies.
- Theorem `TrustedNetworks.reached_iff`: a walk ends at one address only.
- Theorem `TrustedNetworks.clientAddress_of_readable`: the client of a request whose lines are readable.
-/

namespace Gatehouse.Net

open Http (Headers readable?)

variable {trusted : TrustedNetworks} {peer a : Address} {chain left right : List String} {text : String}

/-! ## Lines -/

/-- The hops that some lines name: their items without blanks, empty ones left out. -/
def hopsOf (texts : List String) : List String :=
  ((texts.flatMap (Text.splitOn ',')).map Text.trim).filter (!·.isEmpty)

/-- All lines that can be read count. -/
theorem hops_of_readable {headers : Headers} {texts : List String}
    (readable : (headers.values "x-forwarded-for").map readable? = texts.map some) :
    hops headers = hopsOf texts := by
  have lines : (headers.values "x-forwarded-for").filterMap readable? = texts := by
    have read := congrArg (List.filterMap id) readable
    simpa [List.filterMap_map] using read
  rw [hops, lines, hopsOf]

/-- Lines name the same hops as one line with all their items. -/
theorem hopsOf_joinWith (texts : List String) : hopsOf [Text.joinWith "," texts] = hopsOf texts := by
  cases texts with
  | nil => decide +kernel
  | cons text rest =>
      have pieces : Text.splitOn ',' (Text.joinWith "," (text :: rest)) =
          (text :: rest).flatMap (Text.splitOn ',') :=
        @Text.splitOn_joinWith ',' _ (List.cons_ne_nil text rest)
      rw [hopsOf, List.flatMap_singleton, pieces, hopsOf]

/-! ## Hops -/

/-- The hop names the address of a trusted proxy. -/
def IsProxy (trusted : TrustedNetworks) (hop : String) : Prop :=
  ∃ a, Address.ofText? hop = some a ∧ trusted.contains a = true

/-- The hop names an address that is not trusted. -/
def IsStranger (trusted : TrustedNetworks) (hop : String) : Prop :=
  ∃ a, Address.ofText? hop = some a ∧ trusted.contains a = false

/-- The hop names no address. -/
def IsBroken (hop : String) : Prop :=
  Address.ofText? hop = none

theorem isProxy_of_not {hop : String} (whole : ¬IsBroken hop) (known : ¬IsStranger trusted hop) :
    IsProxy trusted hop := by
  obtain ⟨a, named⟩ := Option.ne_none_iff_exists'.1 whole
  refine ⟨a, named, ?_⟩
  by_contra stranger
  exact known ⟨a, named, by simpa using stranger⟩

/-- A list is cut at the last member with a property. -/
structure LastWith {α : Type} (P : α → Prop) (l left : List α) (x : α) (right : List α) : Prop where
  cut : l = left ++ x :: right
  here : P x
  behind : ∀ y ∈ right, ¬P y

theorem exists_lastWith {α : Type} {P : α → Prop} {l : List α} (h : ∃ x ∈ l, P x) :
    ∃ left x right, LastWith P l left x right := by
  induction l with
  | nil =>
      obtain ⟨x, mem, -⟩ := h
      cases mem
  | cons y l ih =>
      by_cases later : ∃ x ∈ l, P x
      · obtain ⟨left, x, right, last⟩ := ih later
        exact ⟨y :: left, x, right, by rw [last.cut, List.cons_append], last.here, last.behind⟩
      · obtain ⟨x, mem, has⟩ := h
        rcases List.mem_cons.1 mem with rfl | inside
        · exact ⟨[], x, l, rfl, has, fun z hz more => later ⟨z, hz, more⟩⟩
        · exact absurd ⟨x, inside, has⟩ later

/-! ## The end of a walk -/

/-- The last stranger, behind which there are nothing but proxies, has the address. -/
def FirstStranger (trusted : TrustedNetworks) (chain : List String) (a : Address) : Prop :=
  ∃ left text right, LastWith (IsStranger trusted) chain left text right ∧
    Address.ofText? text = some a ∧ ∀ hop ∈ right, IsProxy trusted hop

/-- The address of the first one of some hops, or that of the peer if there are none. -/
def nearest (peer : Address) (chain : List String) : Address :=
  (chain.head?.bind Address.ofText?).getD peer

/-- The address that a walk from a peer over some hops ends at. -/
inductive Reached (trusted : TrustedNetworks) (peer : Address) (chain : List String) :
    Address → Prop where
  /-- The last stranger, if all hops behind it are proxies. -/
  | stranger {a : Address} (first : FirstStranger trusted chain a) : Reached trusted peer chain a
  /-- Else the hop right behind the last one that names no address, or the peer. -/
  | beforeBroken {left right : List String} {text : String}
      (unmet : ∀ a, ¬FirstStranger trusted chain a) (last : LastWith IsBroken chain left text right) :
      Reached trusted peer chain (nearest peer right)
  /-- Else the first hop. -/
  | leftmost {first : String} {rest : List String} {a : Address}
      (unmet : ∀ a, ¬FirstStranger trusted chain a) (whole : ∀ hop ∈ chain, ¬IsBroken hop)
      (cut : chain = first :: rest) (named : Address.ofText? first = some a) :
      Reached trusted peer chain a

/-- Where no stranger is met first, all hops behind which no broken one comes are proxies. -/
theorem isProxy_of_no_stranger (unmet : ∀ a, ¬FirstStranger trusted chain a)
    (cut : chain = left ++ right) (whole : ∀ hop ∈ right, ¬IsBroken hop) :
    ∀ hop ∈ right, IsProxy trusted hop := by
  intro hop mem
  refine isProxy_of_not (whole hop mem) fun stranger => ?_
  obtain ⟨front, text, back, last⟩ := exists_lastWith ⟨hop, mem, stranger⟩
  obtain ⟨a, named, -⟩ := last.here
  refine unmet a ⟨left ++ front, text, back, ⟨?_, last.here, last.behind⟩, named, ?_⟩
  · rw [cut, last.cut, List.append_assoc]
  · intro hop' mem'
    have inside : hop' ∈ right := by
      rw [last.cut]
      exact List.mem_append_right _ (List.mem_cons_of_mem _ mem')
    exact isProxy_of_not (whole hop' inside) (last.behind hop' mem')

namespace TrustedNetworks

/-- A walk passes proxies and is then at the first one of them. -/
theorem walk_proxies (known : ∀ hop ∈ right, IsProxy trusted hop) (peer : Address)
    (rest : List String) :
    trusted.walk peer (right.reverse ++ rest) = trusted.walk (nearest peer right) rest := by
  induction right generalizing rest with
  | nil => rfl
  | cons hop right ih =>
      rw [List.forall_mem_cons] at known
      obtain ⟨⟨a, named, trusts⟩, others⟩ := known
      rw [List.reverse_cons, List.append_assoc, List.singleton_append, ih others]
      simp [walk, nearest, named, trusts]

/-- A walk ends where the hops say. -/
theorem walk_of_reached (h : Reached trusted peer chain a) : trusted.walk peer chain.reverse = a := by
  have turned (left right : List String) (text : String) :
      (left ++ text :: right).reverse = right.reverse ++ text :: left.reverse := by simp
  cases h with
  | stranger first =>
      obtain ⟨left, text, right, last, named, known⟩ := first
      obtain ⟨b, named', strange⟩ := last.here
      cases named.symm.trans named'
      rw [last.cut, turned, walk_proxies known]
      simp [walk, named, strange]
  | beforeBroken unmet last =>
      rename_i left right text
      have cut : chain = (left ++ [text]) ++ right := by simp [last.cut]
      have known := isProxy_of_no_stranger unmet cut last.behind
      have broken : Address.ofText? text = none := last.here
      rw [last.cut, turned, walk_proxies known]
      simp [walk, broken]
  | leftmost unmet whole cut named =>
      have known := isProxy_of_no_stranger unmet (List.nil_append chain).symm whole
      have ended := walk_proxies known peer []
      rw [List.append_nil] at ended
      rw [ended, cut]
      simp [walk, nearest, named]

/-- Every walk over hops ends in one of the three ways. -/
theorem exists_reached (given : chain ≠ []) : ∃ a, Reached trusted peer chain a := by
  by_cases first : ∃ a, FirstStranger trusted chain a
  · obtain ⟨a, first⟩ := first
    exact ⟨a, .stranger first⟩
  · have unmet : ∀ a, ¬FirstStranger trusted chain a := not_exists.1 first
    by_cases broken : ∃ hop ∈ chain, IsBroken hop
    · obtain ⟨left, text, right, last⟩ := exists_lastWith broken
      exact ⟨nearest peer right, .beforeBroken unmet last⟩
    · have whole : ∀ hop ∈ chain, ¬IsBroken hop := fun hop mem bad => broken ⟨hop, mem, bad⟩
      obtain ⟨hop, rest, rfl⟩ := List.exists_cons_of_ne_nil given
      obtain ⟨a, named⟩ := Option.ne_none_iff_exists'.1 (whole hop List.mem_cons_self)
      exact ⟨a, .leftmost unmet whole rfl named⟩

/-- A walk ends at one address only. -/
theorem reached_iff (given : chain ≠ []) :
    Reached trusted peer chain a ↔ a = trusted.walk peer chain.reverse := by
  constructor
  · exact fun reached => (walk_of_reached reached).symm
  · rintro rfl
    obtain ⟨b, reached⟩ := @exists_reached trusted peer chain given
    rwa [walk_of_reached reached]

/-- A walk ends at the peer or at a hop behind which there are nothing but proxies. -/
theorem peer_or_hop_of_reached (h : Reached trusted peer chain a) :
    a = peer ∨ ∃ left text right, chain = left ++ text :: right ∧ Address.ofText? text = some a ∧
      ∀ hop ∈ right, IsProxy trusted hop := by
  cases h with
  | stranger first =>
      obtain ⟨left, text, right, last, named, known⟩ := first
      exact .inr ⟨left, text, right, last.cut, named, known⟩
  | beforeBroken unmet last =>
      rename_i left right text
      have cut : chain = (left ++ [text]) ++ right := by simp [last.cut]
      have known := isProxy_of_no_stranger unmet cut last.behind
      cases right with
      | nil => exact .inl rfl
      | cons hop right =>
          rw [List.forall_mem_cons] at known
          obtain ⟨⟨a, named, -⟩, behind⟩ := known
          refine .inr ⟨left ++ [text], hop, right, by simp [last.cut], ?_, behind⟩
          simp [nearest, named]
  | @leftmost first rest _ unmet whole cut named =>
      have known := isProxy_of_no_stranger unmet (List.nil_append chain).symm whole
      rw [cut, List.forall_mem_cons] at known
      exact .inr ⟨[], first, rest, cut, named, known.2⟩

/-- Without a connection there is no client.  A peer that is not trusted, or that passes on no hops, is
the client itself.  Behind a trusted peer the client is the address that the walk over the hops ends at,
which there is exactly one of: the peer, or a hop behind which there are nothing but proxies.  Only the
hops matter, and not how they are spread over lines, blanks and empty items. -/
theorem clientAddress_of_readable {headers : Headers} {texts : List String}
    (readable : (headers.values "x-forwarded-for").map readable? = texts.map some) :
    trusted.clientAddress headers none = none ∧
    (∀ peer, trusted.contains peer = false ∨ hopsOf texts = [] →
      trusted.clientAddress headers (some peer) = some peer) ∧
    (∀ peer, trusted.contains peer = true → hopsOf texts ≠ [] →
      ∃ a, trusted.clientAddress headers (some peer) = some a ∧
        ∀ b, Reached trusted peer (hopsOf texts) b ↔ b = a) ∧
    (∀ peer a, trusted.clientAddress headers (some peer) = some a →
      a = peer ∨ ∃ left text right, hopsOf texts = left ++ text :: right ∧
        Address.ofText? text = some a ∧ ∀ hop ∈ right, IsProxy trusted hop) ∧
    (∀ (others : Headers) (lines : List String),
      (others.values "x-forwarded-for").map readable? = lines.map some →
      hopsOf lines = hopsOf texts →
      ∀ peer, trusted.clientAddress others peer = trusted.clientAddress headers peer) ∧
    hopsOf [Text.joinWith "," texts] = hopsOf texts := by
  have named := hops_of_readable readable
  have walked {peer : Address} (known : trusted.contains peer = true) :
      trusted.clientAddress headers (some peer) = some (trusted.walk peer (hopsOf texts).reverse) := by
    rw [clientAddress, Option.map_some, if_pos known, named]
  have foreign {peer : Address} (unknown : trusted.contains peer = false) :
      trusted.clientAddress headers (some peer) = some peer := by
    rw [clientAddress, Option.map_some, unknown, if_neg Bool.false_ne_true]
  have alone (peer : Address) (empty : hopsOf texts = []) :
      trusted.clientAddress headers (some peer) = some peer := by
    cases known : trusted.contains peer with
    | false => exact foreign known
    | true => rw [walked known, empty, List.reverse_nil, walk]
  have onward {peer : Address} (known : trusted.contains peer = true) (given : hopsOf texts ≠ []) :
      ∃ a, trusted.clientAddress headers (some peer) = some a ∧
        ∀ b, Reached trusted peer (hopsOf texts) b ↔ b = a :=
    ⟨_, walked known, fun _ => reached_iff given⟩
  refine ⟨rfl, ?_, fun peer => onward, ?_, ?_, hopsOf_joinWith texts⟩
  · rintro peer (unknown | empty)
    · exact foreign unknown
    · exact alone peer empty
  · intro peer a client
    by_cases goes : trusted.contains peer = true ∧ hopsOf texts ≠ []
    · obtain ⟨b, client', reached⟩ := onward goes.1 goes.2
      cases client.symm.trans client'
      exact peer_or_hop_of_reached ((reached a).2 rfl)
    · have stays : trusted.clientAddress headers (some peer) = some peer := by
        rcases not_and_or.1 goes with unknown | empty
        · exact foreign (by simpa using unknown)
        · exact alone peer (not_not.1 empty)
      exact .inl (Option.some.inj (client.symm.trans stays))
  · intro others lines readable' same peer
    rw [clientAddress, clientAddress, named, hops_of_readable readable', same]

/-- The lines of a request whose client has sent a hop that names no address. -/
def garbled : Headers :=
  ⟨[("x-forwarded-for", utf8 "192.0.2.1, garbage, "), ("x-forwarded-for", utf8 " 10.0.0.5")]⟩

/-- Behind 10.0.0.2 the walk ends at 10.0.0.5, in front of the broken hop, and one line with the same
items has the same client. -/
theorem garbled_client :
    let inner : TrustedNetworks := ⟨[.v4 0x0A000000 8]⟩
    let peer : Address := .v4 0x0A000002
    let texts := ["192.0.2.1, garbage, ", " 10.0.0.5"]
    (garbled.values "x-forwarded-for").map readable? = texts.map some ∧
    inner.clientAddress garbled (some peer) = some (.v4 0x0A000005) ∧
    Reached inner peer (hopsOf texts) (.v4 0x0A000005) ∧
    inner.clientAddress ⟨[("x-forwarded-for", utf8 "192.0.2.1,garbage,,10.0.0.5")]⟩ (some peer) =
      inner.clientAddress garbled (some peer) := by
  intro inner peer texts
  have readable : (garbled.values "x-forwarded-for").map readable? = texts.map some := by
    decide +kernel
  have client : inner.clientAddress garbled (some peer) = some (.v4 0x0A000005) := by decide +kernel
  obtain ⟨-, -, walks, -, alike, -⟩ := @clientAddress_of_readable inner garbled texts readable
  refine ⟨readable, client, ?_, ?_⟩
  · obtain ⟨a, ended, reached⟩ := walks peer (by decide) (by decide +kernel)
    cases client.symm.trans ended
    exact (reached _).2 rfl
  · exact alike _ ["192.0.2.1,garbage,,10.0.0.5"] (by decide +kernel) (by decide +kernel) _

end TrustedNetworks

end Gatehouse.Net
