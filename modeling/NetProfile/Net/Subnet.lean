import NetProfile.Error
import NetProfile.Net.Address

/-!
Addresses with a prefix length, written `address/length`. Without a length the text means a single
host.
-/

namespace NetProfile

structure Subnet where
  address : Address
  length : UInt8
deriving DecidableEq, Repr

namespace Subnet

/-- The address part of a text and its length, which is at least one. -/
def splitLength (family : Family) (text : String) : Except Error (String × UInt8) :=
  match Text.cutOnce '/' text with
  | none => .ok (text, UInt8.ofNat family.bits)
  | some (address, length) =>
    match Numeral.natural? (.fixed 10) family.bits length with
    | some n =>
      if 1 ≤ n then .ok (address, UInt8.ofNat n)
      else .error (.invalid text (.prefixLength length family.bits))
    | none => .error (.invalid text (.prefixLength length family.bits))

def parse (family : Family) (text : String) : Except Error Subnet := do
  let text := Text.trim text
  let (part, length) ← splitLength family text
  match Address.ofFamily? family part with
  | some address => .ok ⟨address, length⟩
  | none => .error (.invalid text (.subnetAddress family part))

def toText (subnet : Subnet) : String :=
  subnet.address.toText ++ "/" ++ Numeral.decimalDigits subnet.length.toNat

def formatList (subnets : List Subnet) : String := String.intercalate ", " (subnets.map toText)

end Subnet

end NetProfile
