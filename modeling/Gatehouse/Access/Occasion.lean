import Gatehouse.Access.Principal
import Gatehouse.Token.Identifier
import Gatehouse.Token.Opaque

/-!
# Material for requests

What a request is given from outside, cut out of one run of random bytes.

Main definition: `Occasion.ofRandom`.
-/

namespace Gatehouse.Access

/-- The number of random bytes for a request: three random identifiers, one with the time, and a
secret. -/
def Occasion.randomCount : Nat :=
  3 * 16 + 10 + Token.ApiToken.secretBytes

/-- What a request is given at a time, in milliseconds. -/
def Occasion.ofRandom (milliseconds : Nat) (bs : Bytes) : Occasion where
  now := Int.ofNat (milliseconds / 1000)
  accessId := Identifier.random (bs.take 16)
  refreshId := Identifier.random ((bs.drop 16).take 16)
  pendingId := Identifier.random ((bs.drop 32).take 16)
  apiTokenId := Identifier.timed milliseconds ((bs.drop 48).take 10)
  apiTokenRandom := bs.drop 58

end Gatehouse.Access
