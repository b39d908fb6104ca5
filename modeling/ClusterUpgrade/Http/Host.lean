import ClusterUpgrade.Http.Address
import ClusterUpgrade.Http.DomainName
import ClusterUpgrade.Http.Percent

/-!
Hosts of URLs: addresses, or names in their ASCII form. A name that ends in a number has to be an
address.
-/

namespace ClusterUpgrade.Http

inductive Host where
  | name (text : List Char)
  | address4 (address : Address4)
  | address6 (address : Address6)
  deriving Repr, DecidableEq, Inhabited

namespace Host

/-- The host that a name or an address outside of brackets spells. -/
def ofName? (text : List Char) : Option Host := do
  let name ← DomainName.ascii? (← Text.ofUtf8? (Percent.decode text)).toList
  if name.isEmpty then none
  else if Address4.isMeant name then (Address4.parse? name).map .address4
  else some (.name name)

/-- The host that a text spells; addresses of 128 bits stand in brackets. -/
def parse? : List Char → Option Host
  | '[' :: rest => do
    let inner ← Text.dropSuffix? [']'] rest
    return .address6 (← Address6.parse? inner)
  | text => ofName? text

def text : Host → List Char
  | .name text => text
  | .address4 address => address.text
  | .address6 address => '[' :: address.text ++ [']']

end Host

end ClusterUpgrade.Http
