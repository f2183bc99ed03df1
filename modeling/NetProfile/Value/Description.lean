import NetProfile.Text.Quoted
import NetProfile.Value

/-!
Values written out with their structure, such as `Int(-7)` or `List([Text("a")])`. Properties show
values in this form when they hold one of a kind that they have no form for.
-/

namespace NetProfile

namespace Description

def commas (parts : List String) : String := String.intercalate ", " parts

def call (name argument : String) : String := name ++ "(" ++ argument ++ ")"

def record (name : String) (fields : List (String × String)) : String :=
  name ++ " \x7b " ++ commas (fields.map fun (field, value) => field ++ ": " ++ value) ++ " \x7d"

def list (items : List String) : String := "[" ++ commas items ++ "]"

def dict {α : Type} (describe : α → String) (dict : Dict α) : String :=
  "\x7b" ++ commas (dict.entries.map fun (key, value) => Text.quoted key ++ ": " ++ describe value)
    ++ "\x7d"

def option {α : Type} (describe : α → String) : Option α → String
  | some value => call "Some" (describe value)
  | none => "None"

def natural (n : Nat) : String := Numeral.decimalDigits n

def truth (b : Bool) : String := if b then "true" else "false"

end Description

open Description

def Subnet.describe (subnet : Subnet) : String :=
  record "IpAddress"
    [("address", subnet.address.toText), ("prefix", natural subnet.length.toNat)]

def AttributeValue.describe : AttributeValue → String
  | u32 n => call "U32" (natural n.toNat)
  | u8 n => call "U8" (natural n.toNat)
  | bool b => call "Bool" (truth b)
  | address a => call "Address" a.toText
  | subnet s => call "Prefixed" s.describe
  | text t => call "Text" (Text.quoted t)

def Route.describe (route : Route) : String :=
  record "IpRoute"
    [("dest", route.destination.toText), ("prefix", natural route.length.toNat),
      ("next_hop", option Address.toText route.nextHop),
      ("metric", Numeral.decimal route.metric.toInt),
      ("attributes", dict AttributeValue.describe route.attributes)]

def ArpFlags.describe (flags : ArpFlags) : String :=
  record "ArpPingFlags"
    [("validate_active", truth flags.validateActive),
      ("validate_inactive", truth flags.validateInactive),
      ("send_always", truth flags.sendAlways)]

def Probe.timing (probe : Probe) : List (String × String) :=
  [("init_wait", natural probe.initWait.toNat), ("interval", natural probe.interval.toNat),
    ("missed_max", natural probe.missedMax.toNat)]

def LinkWatcher.describe : LinkWatcher → String
  | ethtool delayUp delayDown =>
    record "Ethtool" [("delay_up", natural delayUp.toNat), ("delay_down", natural delayDown.toNat)]
  | nsnaPing probe =>
    record "NsnaPing" (probe.timing ++ [("target_host", Text.quoted probe.targetHost)])
  | arpPing probe vlan sourceHost flags =>
    record "ArpPing" (probe.timing ++
      [("vlanid", Numeral.decimal vlan.toInt), ("target_host", Text.quoted probe.targetHost),
        ("source_host", Text.quoted sourceHost), ("flags", flags.describe)])

def PriorityEntry.describe (entry : PriorityEntry) : String :=
  record "PriorityMapEntry"
    [("from", natural entry.source.toNat),
      ("to", option (fun target => natural target.toNat) entry.target)]

def FunctionVlan.describe (vlan : FunctionVlan) : String :=
  record "SriovVlan"
    [("id", natural vlan.id.toNat), ("qos", natural vlan.qos.toNat),
      ("proto", match vlan.protocol with | .q => "Q" | .ad => "Ad")]

def VirtualFunction.describe (function : VirtualFunction) : String :=
  record "SriovVf"
    [("index", natural function.index.toNat), ("attributes", dict Text.quoted function.attributes),
      ("vlans", list (function.vlans.map FunctionVlan.describe))]

def Qdisc.describe (qdisc : Qdisc) : String :=
  record "Qdisc"
    [("kind", Text.quoted qdisc.kind), ("handle", natural qdisc.handle.toNat),
      ("parent", natural qdisc.parent.toNat)]

def Item.describe : Item → String
  | text value => call "Text" (Text.quoted value)
  | address value => call "Address" value.describe
  | route value => call "Route" value.describe
  | watcher value => call "Watcher" value.describe
  | priority value => call "Priority" value.describe
  | function value => call "Vf" value.describe
  | qdisc value => call "Qdisc" value.describe

def DnsOptions.describe : DnsOptions → String
  | unset => "Unset"
  | empty => "Empty"
  | populated options => call "Populated" (list (options.map Text.quoted))

def Value.describe : Value → String
  | bool b => call "Bool" (truth b)
  | int n => call "Int" (Numeral.decimal n.toInt)
  | text t => call "Str" (option Text.quoted t)
  | octets o =>
    call "Bytes" (option (fun bytes => Description.list (bytes.map fun b => natural b.toNat)) o)
  | list items => call "List" (Description.list (items.map Item.describe))
  | map entries => call "Map" (dict Text.quoted entries)
  | slots s => call "Slots" (Description.list (s.toList.map fun n => natural n.toNat))
  | dnsOptions options => call "DnsOptions" options.describe

end NetProfile
