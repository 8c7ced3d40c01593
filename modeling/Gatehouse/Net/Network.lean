import Gatehouse.Net.Address
import Gatehouse.Text.Blank

/-!
# Networks

A network is an address and the number of leading bits that its members share with it.  It has
members of its own version only.

Main definitions: `Network`, `Network.ofText?` and `Network.contains`.
-/

namespace Gatehouse.Net

/-- A network of either version; `length` is the number of leading bits that count. -/
inductive Network where
  | v4 (bits : BitVec 32) (length : Nat)
  | v6 (bits : BitVec 128) (length : Nat)
  deriving DecidableEq, Repr

/-- Does the address agree with the network in all bits that count? -/
def Network.contains : Network → Address → Bool
  | .v4 bits length, .v4 a => a >>> (32 - length) == bits >>> (32 - length)
  | .v6 bits length, .v6 a => a >>> (128 - length) == bits >>> (128 - length)
  | _, _ => false

/-- A number of leading bits up to a maximum. -/
def maskLength? (max : Nat) (text : String) : Option Nat :=
  match Decimal.natBelow? 256 text with
  | some n => if n ≤ max then some n else none
  | none => none

/-- The number of leading ones of a mask that has ones in front and zeros behind. -/
def maskOnes? (width mask : Nat) : Option Nat :=
  (List.range (width + 1)).find? fun n => mask == (1 <<< width) - (1 <<< (width - n))

/-- The address part of a network and what follows its only slash. -/
def networkParts? (text : String) : Option (String × Option String) :=
  match Text.splitOn '/' text with
  | [address] => some (address, none)
  | [address, mask] => some (address, some mask)
  | _ => none

/-- The network of version 4 that a text writes: an address, alone or with a slash and the number of
bits or a mask. -/
def network4? (text : String) : Option Network := do
  let (address, mask) ← networkParts? text
  let n ← dotted? address
  let length ←
    match mask with
    | none => some 32
    | some mask =>
      match dotted? mask with
      | some m => maskOnes? 32 m
      | none => maskLength? 32 mask
  return .v4 (BitVec.ofNat 32 n) length

/-- The network of version 6 that a text writes. -/
def network6? (text : String) : Option Network := do
  let (address, mask) ← networkParts? text
  let n ← colons? address
  let length ←
    match mask with
    | none => some 128
    | some mask => maskLength? 128 mask
  return .v6 (BitVec.ofNat 128 n) length

/-- The network that a text writes. -/
def Network.ofText? (text : String) : Option Network :=
  (network4? text).or (network6? text)

/-- Trusted reverse proxies, given by their networks. -/
structure TrustedNetworks where
  networks : List Network
  deriving DecidableEq, Repr

namespace TrustedNetworks

/-- No proxies. -/
def empty : TrustedNetworks := ⟨[]⟩

/-- Is the address that of a trusted proxy? -/
def contains (t : TrustedNetworks) (a : Address) : Bool :=
  t.networks.any (·.contains a)

/-- The networks that some texts write, blank ones left out; else the first text that is no
network, without the blanks around it. -/
def ofTexts (texts : List String) : Except String TrustedNetworks := do
  let texts := (texts.map Text.trim).filter (!·.isEmpty)
  let networks ← texts.mapM fun text =>
    match Network.ofText? text with
    | some network => .ok network
    | none => .error text
  return ⟨networks⟩

end TrustedNetworks

end Gatehouse.Net
