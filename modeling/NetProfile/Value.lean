import NetProfile.Dict
import NetProfile.Record.LinkWatcher
import NetProfile.Record.PriorityMap
import NetProfile.Record.Qdisc
import NetProfile.Record.ResolverOptions
import NetProfile.Record.Route
import NetProfile.Record.VirtualFunction
import NetProfile.SlotArray

/-!
The values that a profile holds. Every value has a kind, and a field keeps its kind for as long as
it is there.
-/

namespace NetProfile

inductive Item where
  | text (value : String)
  | address (value : Subnet)
  | route (value : Route)
  | watcher (value : LinkWatcher)
  | priority (value : PriorityEntry)
  | function (value : VirtualFunction)
  | qdisc (value : Qdisc)
deriving DecidableEq, Repr

namespace Item

def text? : Item → Option String
  | text value => some value
  | _ => none

def address? : Item → Option Subnet
  | address value => some value
  | _ => none

def route? : Item → Option Route
  | route value => some value
  | _ => none

def watcher? : Item → Option LinkWatcher
  | watcher value => some value
  | _ => none

def priority? : Item → Option PriorityEntry
  | priority value => some value
  | _ => none

def function? : Item → Option VirtualFunction
  | function value => some value
  | _ => none

def qdisc? : Item → Option Qdisc
  | qdisc value => some value
  | _ => none

end Item

inductive Value where
  | bool (value : Bool)
  | int (value : Int64)
  /-- A text, or its absence. -/
  | text (value : Option String)
  /-- Octets, or their absence. -/
  | octets (value : Option (List UInt8))
  | list (items : List Item)
  | map (entries : Dict String)
  | slots (slots : Slots)
  | dnsOptions (options : DnsOptions)
deriving DecidableEq, Repr

inductive Kind where
  | bool
  | int
  | text
  | octets
  | list
  | map
  | slots
  | dnsOptions
deriving DecidableEq, Repr

def Kind.label : Kind → String
  | bool => "bool"
  | int => "int"
  | text => "string"
  | octets => "bytes"
  | list => "list"
  | map => "map"
  | slots => "slots"
  | dnsOptions => "dns-options"

namespace Value

def kind : Value → Kind
  | bool _ => .bool
  | int _ => .int
  | text _ => .text
  | octets _ => .octets
  | list _ => .list
  | map _ => .map
  | slots _ => .slots
  | dnsOptions _ => .dnsOptions

def bool? : Value → Option Bool
  | bool value => some value
  | _ => none

def int? : Value → Option Int64
  | int value => some value
  | _ => none

def text? : Value → Option String
  | text value => value
  | _ => none

def octets? : Value → Option (List UInt8)
  | octets value => value
  | _ => none

def list? : Value → Option (List Item)
  | list items => some items
  | _ => none

def map? : Value → Option (Dict String)
  | map entries => some entries
  | _ => none

def slots? : Value → Option Slots
  | slots values => some values
  | _ => none

def dnsOptions? : Value → Option DnsOptions
  | dnsOptions options => some options
  | _ => none

def ofText (value : String) : Value := text (some value)

def noSlots : Slots := .replicate 8 0

end Value

end NetProfile
