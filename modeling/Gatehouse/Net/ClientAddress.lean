import Gatehouse.Http.Header
import Gatehouse.Net.Network

/-!
# The client behind proxies

Each proxy on the way adds the address it was called from to the end of the `x-forwarded-for`
lines.  The addresses are believed from the right as long as they are those of trusted proxies; the
first one that is not is the client.

Main definitions: `hops`, `walk` and `TrustedNetworks.clientAddress`.
-/

namespace Gatehouse.Net

/-- The addresses noted on the way, as texts: the items of the readable `x-forwarded-for` lines
without blanks. -/
def hops (headers : Http.Headers) : List String :=
  let lines := (headers.values "x-forwarded-for").filterMap Http.readable?
  ((lines.flatMap (Text.splitOn ',')).map Text.trim).filter (!·.isEmpty)

/-- Walk over the hops, nearest first, from an address that is trusted.  An unreadable hop ends the
walk at the last address, and an untrusted one is its result. -/
def TrustedNetworks.walk (trusted : TrustedNetworks) (last : Address) : List String → Address
  | [] => last
  | hop :: rest =>
    match Address.ofText? hop with
    | none => last
    | some a => if trusted.contains a then trusted.walk a rest else a

/-- The address of the client, given that of the connection. -/
def TrustedNetworks.clientAddress (trusted : TrustedNetworks) (headers : Http.Headers)
    (peer : Option Address) : Option Address :=
  peer.map fun peer =>
    if trusted.contains peer then trusted.walk peer (hops headers).reverse else peer

end Gatehouse.Net
