import NetProfile.Contract.List
import NetProfile.Contract.Scalar
import NetProfile.OptionMap
import NetProfile.Text.Utf8

/-!
Contracts of properties: which values a property holds and how they are shown. Reading a new text is
the work of `NetProfile.Edit`, as some contracts write more than one field.
-/

namespace NetProfile

/-- Contracts of single properties that behave like no other. -/
inductive Special where
  /-- The type of the profile. It is fixed once the profile has an identifier. -/
  | connectionType
  /-- One of the four WEP keys. -/
  | wepKey (slot : Fin 4)
  /-- Options of the resolver. -/
  | dnsOptions
  /-- The partition key of an InfiniBand device. -/
  | partitionKey
  /-- The channel of a wireless network. -/
  | wifiChannel
  /-- The name of a wireless network, kept as octets. -/
  | networkName
deriving DecidableEq, Repr

inductive Contract where
  | scalar (scalar : Scalar)
  | list (list : ListContract)
  | options (spec : OptionMap)
  | special (special : Special)
deriving DecidableEq, Repr

namespace Special

def default : Special → Value
  | connectionType | wepKey _ => .text none
  | dnsOptions => .dnsOptions .unset
  | partitionKey => .int (-1)
  | wifiChannel => .int 0
  | networkName => .octets none

/-- The key -1 stands for the one of the parent interface, as does a value that is no number. -/
def formatPartitionKey (value : Value) : String :=
  match value.int? with
  | none => "default"
  | some key =>
    if key = -1 then "default" else "0x" ++ Numeral.hexPadded 4 key.toUInt64.toNat

/-- A value of another kind is shown like the absence of one. -/
def format (special : Special) (value : Value) : String :=
  match special with
  | connectionType | wepKey _ => value.text?.getD ""
  | dnsOptions => String.intercalate "," ((value.dnsOptions?.map DnsOptions.items).getD [])
  | partitionKey => formatPartitionKey value
  | wifiChannel => Numeral.decimal (value.int?.getD 0).toInt
  | networkName => (value.octets?.map Text.ofUtf8Lossy).getD ""

end Special

namespace Contract

def label : Contract → String
  | scalar _ => "scalar"
  | list _ => "list"
  | options _ => "option-map"
  | special _ => "custom"

/-- The value that a property has as long as none is stored. -/
def default : Contract → Value
  | scalar s => s.default
  | list _ => .list []
  | options _ => .map .empty
  | special s => s.default

def format (contract : Contract) (mode : Mode) (value : Value) : String :=
  match contract, value with
  | scalar s, value => s.format mode value
  | list l, .list items => l.format mode items
  | options spec, .map entries => spec.format entries
  | special s, value => s.format value
  | _, other => other.describe

/-- Resolver options are at their default only while they are unset. -/
def isDefault (contract : Contract) (value usual : Value) : Bool :=
  match contract with
  | special .dnsOptions => value == .dnsOptions .unset
  | _ => value == usual

end Contract

end NetProfile
