/-!
The two address families.
-/

namespace NetProfile

inductive Family where
  | v4
  | v6
deriving DecidableEq, Repr

/-- Number of bits of an address, which is also its longest prefix. -/
def Family.bits : Family → Nat
  | .v4 => 32
  | .v6 => 128

def Family.label : Family → String
  | .v4 => "IPv4"
  | .v6 => "IPv6"

end NetProfile
