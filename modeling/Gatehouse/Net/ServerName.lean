import Gatehouse.Net.Address

/-!
# Names of servers

The name that a server proves to be its own: a name of the domain name system or an address.

Main definitions: `isDomainName` and `isServerName`.
-/

namespace Gatehouse.Net

/-- The characters of a label. -/
def isLabelChar (c : Char) : Bool :=
  c.isAlphanum || c == '-' || c == '_'

/-- A label: at most 63 letters, digits, underscores and inner hyphens. -/
def isLabel (cs : List Char) : Bool :=
  !cs.isEmpty && cs.length ≤ 63 && cs.all isLabelChar && cs.head? != some '-' &&
    cs.getLast? != some '-'

/-- The labels of a name, which may end with a point. -/
def labelsOf (name : String) : List (List Char) :=
  match (Text.splitChars '.' name.toList).reverse with
  | [] :: last :: others => (last :: others).reverse
  | labels => labels.reverse

/-- A name of the domain name system; its last label is no number. -/
def isDomainName (name : String) : Bool :=
  let labels := labelsOf name
  name.utf8ByteSize ≤ 253 && labels.all isLabel &&
    !(labels.getLast?.any fun last => last.all Decimal.isDigit)

/-- The name of a server. -/
def isServerName (name : String) : Bool :=
  isDomainName name || (Address.ofText? name).isSome

end Gatehouse.Net
