import NetProfile.Error
import NetProfile.Numeral

/-!
Hardware addresses: a fixed number of octets, each one or two hexadecimal digits, between colons or
hyphens. They are kept in capital letters with colons.
-/

namespace NetProfile

/-- What kind of hardware address a text has to be. -/
inductive HardwareAddress where
  /-- Ethernet, six octets. -/
  | ethernet
  /-- Ethernet, or a word that says how to make an address. -/
  | cloned
  /-- InfiniBand, twenty octets. -/
  | infiniband
  /-- IEEE 802.15.4, eight octets. -/
  | wpan
deriving DecidableEq, Repr

namespace HardwareAddress

def octetCount : HardwareAddress → Nat
  | ethernet | cloned => 6
  | infiniband => 20
  | wpan => 8

def label : HardwareAddress → String
  | ethernet | cloned => "Ethernet"
  | infiniband => "InfiniBand"
  | wpan => "IEEE 802.15.4"

def words : HardwareAddress → List String
  | cloned => ["preserve", "permanent", "random", "stable"]
  | _ => []

def isSeparator (c : Char) : Bool := c == ':' || c == '-'

def octet? (digits : List Char) : Option UInt8 :=
  if digits.length ≤ 2 then (Numeral.value? 16 digits).map UInt8.ofNat else none

def octets? (count : Nat) (text : String) : Option (List UInt8) :=
  let parts := Text.piecesOf isSeparator text.toList
  if parts.length = count then parts.mapM octet? else none

def formatOctets (octets : List UInt8) : String :=
  String.intercalate ":" (octets.map fun b => String.ofList (Numeral.hexByte b))

def normalize (count : Nat) (text : String) : Except Error String :=
  match octets? count text with
  | some octets => .ok (formatOctets octets)
  | none => .error (.invalid text (.notHardwareAddress text none))

def parse (form : HardwareAddress) (text : String) : Except Error String :=
  let text := Text.trim text
  if text ∈ form.words then .ok text
  else match octets? form.octetCount text with
    | some octets => .ok (formatOctets octets)
    | none => .error (.invalid text (.notHardwareAddress text (some form.label)))

end HardwareAddress

end NetProfile
