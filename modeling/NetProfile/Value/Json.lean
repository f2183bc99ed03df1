import NetProfile.Json.Decode
import NetProfile.Value

/-!
JSON trees of values. Values, items, attribute values and resolver options are alternatives with a
tag and a content; a link watcher carries its name among its fields.
-/

namespace NetProfile

namespace Json

def ofNatural (n : Nat) : Json := .int n

def ofNullable {α : Type} (write : α → Json) : Option α → Json
  | some value => write value
  | none => .null

def ofAlternative (tagName contentName tag : String) (content : Json) : Json :=
  .object [(tagName, .text tag), (contentName, content)]

def ofDict {α : Type} (write : α → Json) (dict : Dict α) : Json :=
  .object (dict.entries.map fun (key, value) => (key, write value))

end Json

def Address.toJson (address : Address) : Json := .text address.toText

def Address.ofJson? (json : Json) : Option Address := json.text?.bind Address.parse?

namespace Subnet

def toJson (subnet : Subnet) : Json :=
  .object [("address", subnet.address.toJson), ("prefix", .ofNatural subnet.length.toNat)]

def ofJson? (json : Json) : Option Subnet :=
  match json.record? ["address", "prefix"] with
  | some [some address, some length] => do return ⟨← Address.ofJson? address, ← length.u8?⟩
  | _ => none

end Subnet

namespace AttributeValue

def tags : List String := ["u32", "u8", "bool", "address", "prefixed", "text"]

def toJson (value : AttributeValue) : Json :=
  let (tag, content) : String × Json := match value with
    | u32 n => ("u32", .ofNatural n.toNat)
    | u8 n => ("u8", .ofNatural n.toNat)
    | bool b => ("bool", .bool b)
    | address a => ("address", a.toJson)
    | subnet s => ("prefixed", s.toJson)
    | text t => ("text", .text t)
  .ofAlternative "type" "value" tag content

def ofJson? (late : Bool) (json : Json) : Option AttributeValue := do
  let part ← json.tagged? "type" "value" tags late
  let content ← part.content
  match part.tag with
  | "u32" => content.u32?.map u32
  | "u8" => content.u8?.map u8
  | "bool" => content.bool?.map bool
  | "address" => (Address.ofJson? content).map address
  | "prefixed" => (Subnet.ofJson? content).map subnet
  | _ => content.text?.map text

end AttributeValue

namespace Route

def toJson (route : Route) : Json :=
  .object [("dest", route.destination.toJson), ("prefix", .ofNatural route.length.toNat),
    ("next_hop", .ofNullable Address.toJson route.nextHop), ("metric", .int route.metric.toInt),
    ("attributes", .ofDict AttributeValue.toJson route.attributes)]

def ofJson? (late : Bool) (json : Json) : Option Route :=
  match json.record? ["dest", "prefix", "next_hop", "metric", "attributes"] with
  | some [some destination, some length, nextHop, some metric, some attributes] => do
    return {
      destination := ← Address.ofJson? destination
      length := ← length.u8?
      nextHop := ← (nextHop.getD .null).nullable? Address.ofJson?
      metric := ← metric.i64?
      attributes := ← attributes.dict? (AttributeValue.ofJson? late) }
  | _ => none

end Route

namespace LinkWatcher

def tags : List String := ["ethtool", "nsna_ping", "arp_ping"]

def ArpFlags.toJson (flags : ArpFlags) : Json :=
  .object [("validate_active", .bool flags.validateActive),
    ("validate_inactive", .bool flags.validateInactive), ("send_always", .bool flags.sendAlways)]

def ArpFlags.ofJson? (json : Json) : Option ArpFlags :=
  match json.record? ["validate_active", "validate_inactive", "send_always"] with
  | some [some active, some inactive, some always] => do
    return ⟨← active.bool?, ← inactive.bool?, ← always.bool?⟩
  | _ => none

def timing (probe : Probe) : List (String × Json) :=
  [("init_wait", .ofNatural probe.initWait.toNat), ("interval", .ofNatural probe.interval.toNat),
    ("missed_max", .ofNatural probe.missedMax.toNat)]

def toJson (watcher : LinkWatcher) : Json :=
  .object (("name", .text watcher.name) :: match watcher with
    | ethtool delayUp delayDown =>
      [("delay_up", .ofNatural delayUp.toNat), ("delay_down", .ofNatural delayDown.toNat)]
    | nsnaPing probe => timing probe ++ [("target_host", .text probe.targetHost)]
    | arpPing probe vlan sourceHost flags =>
      timing probe ++ [("vlanid", .int vlan.toInt), ("target_host", .text probe.targetHost),
        ("source_host", .text sourceHost), ("flags", ArpFlags.toJson flags)])

def probe? (initWait interval missedMax target : Json) : Option Probe := do
  return ⟨← initWait.u32?, ← interval.u32?, ← missedMax.u32?, ← target.text?⟩

/-- The watcher of a name whose fields are the rest of the record. -/
def ofFields? (name : String) (fields : Json) : Option LinkWatcher :=
  match name with
  | "ethtool" =>
    match fields.record? ["delay_up", "delay_down"] with
    | some [some delayUp, some delayDown] => do
      return ethtool (← delayUp.u32?) (← delayDown.u32?)
    | _ => none
  | "nsna_ping" =>
    match fields.record? ["init_wait", "interval", "missed_max", "target_host"] with
    | some [some wait, some interval, some missed, some target] => do
      return nsnaPing (← probe? wait interval missed target)
    | _ => none
  | _ =>
    match fields.record? ["init_wait", "interval", "missed_max", "vlanid", "target_host",
      "source_host", "flags"] with
    | some [some wait, some interval, some missed, some vlan, some target, some source,
        some flags] => do
      return arpPing (← probe? wait interval missed target) (← vlan.i32?) (← source.text?)
        (← ArpFlags.ofJson? flags)
    | _ => none

def ofJson? (late : Bool) (json : Json) : Option LinkWatcher :=
  if !json.isReadable then none
  else match json with
    | .object members =>
      match Json.named "name" members with
      | [label] => do
        ofFields? (← label.fieldTag? tags late) (.object (members.filter (·.1 ≠ "name")))
      | _ => none
    | .array (label :: fields) => do ofFields? (← label.fieldTag? tags late) (.array fields)
    | _ => none

end LinkWatcher

namespace PriorityEntry

def toJson (entry : PriorityEntry) : Json :=
  .object [("from", .ofNatural entry.source.toNat),
    ("to", .ofNullable (fun target => .ofNatural target.toNat) entry.target)]

def ofJson? (json : Json) : Option PriorityEntry :=
  match json.record? ["from", "to"] with
  | some [some source, target] => do
    return ⟨← source.u32?, ← (target.getD .null).nullable? Json.u32?⟩
  | _ => none

end PriorityEntry

namespace FunctionVlan

def toJson (vlan : FunctionVlan) : Json :=
  .object [("id", .ofNatural vlan.id.toNat), ("qos", .ofNatural vlan.qos.toNat),
    ("proto", .text vlan.protocol.name)]

def ofJson? (late : Bool) (json : Json) : Option FunctionVlan :=
  match json.record? ["id", "qos", "proto"] with
  | some [some id, some qos, some protocol] => do
    return ⟨← id.u32?, ← qos.u32?, ← (protocol.caseName? late).bind protocol?⟩
  | _ => none

end FunctionVlan

namespace VirtualFunction

def toJson (function : VirtualFunction) : Json :=
  .object [("index", .ofNatural function.index.toNat),
    ("attributes", .ofDict .text function.attributes),
    ("vlans", .array (function.vlans.map FunctionVlan.toJson))]

def ofJson? (late : Bool) (json : Json) : Option VirtualFunction :=
  match json.record? ["index", "attributes", "vlans"] with
  | some [some index, some attributes, some vlans] => do
    return {
      index := ← index.u32?
      attributes := ← attributes.dict? Json.text?
      vlans := ← vlans.list? (FunctionVlan.ofJson? late) }
  | _ => none

end VirtualFunction

namespace Qdisc

def toJson (qdisc : Qdisc) : Json :=
  .object [("kind", .text qdisc.kind), ("handle", .ofNatural qdisc.handle.toNat),
    ("parent", .ofNatural qdisc.parent.toNat)]

def ofJson? (json : Json) : Option Qdisc :=
  match json.record? ["kind", "handle", "parent"] with
  | some [some kind, some handle, some parent] => do
    return ⟨← kind.text?, ← handle.u32?, ← parent.u32?⟩
  | _ => none

end Qdisc

namespace Item

def tags : List String := ["text", "address", "route", "watcher", "priority", "vf", "qdisc"]

def toJson (item : Item) : Json :=
  let (tag, content) : String × Json := match item with
    | text value => ("text", .text value)
    | address value => ("address", value.toJson)
    | route value => ("route", value.toJson)
    | watcher value => ("watcher", value.toJson)
    | priority value => ("priority", value.toJson)
    | function value => ("vf", value.toJson)
    | qdisc value => ("qdisc", value.toJson)
  .ofAlternative "type" "item" tag content

def ofJson? (late : Bool) (json : Json) : Option Item := do
  let part ← json.tagged? "type" "item" tags late
  let content ← part.content
  match part.tag with
  | "text" => content.text?.map text
  | "address" => (Subnet.ofJson? content).map address
  | "route" => (Route.ofJson? part.late content).map route
  | "watcher" => (LinkWatcher.ofJson? part.late content).map watcher
  | "priority" => (PriorityEntry.ofJson? content).map priority
  | "vf" => (VirtualFunction.ofJson? part.late content).map function
  | _ => (Qdisc.ofJson? content).map qdisc

end Item

namespace DnsOptions

def tags : List String := ["unset", "empty", "populated"]

def toJson : DnsOptions → Json
  | unset => .object [("state", .text "unset")]
  | empty => .object [("state", .text "empty")]
  | populated options => .ofAlternative "state" "options" "populated" (.array (options.map .text))

/-- A state without options may have null for them. -/
def ofJson? (late : Bool) (json : Json) : Option DnsOptions := do
  let part ← json.tagged? "state" "options" tags late
  match part.tag, part.content.getD .null with
  | "unset", .null => some unset
  | "empty", .null => some empty
  | "populated", content => (content.list? Json.text?).map populated
  | _, _ => none

end DnsOptions

namespace Value

def tags : List String := ["bool", "int", "str", "bytes", "list", "map", "slots", "dns_options"]

def toJson (value : Value) : Json :=
  let (tag, content) : String × Json := match value with
    | bool b => ("bool", .bool b)
    | int n => ("int", .int n.toInt)
    | text t => ("str", .ofNullable .text t)
    | octets o =>
      ("bytes", .ofNullable (fun bytes => .array (bytes.map fun b => .ofNatural b.toNat)) o)
    | list items => ("list", .array (items.map Item.toJson))
    | map entries => ("map", .ofDict .text entries)
    | slots s => ("slots", .array (s.toList.map fun n => .ofNatural n.toNat))
    | dnsOptions options => ("dns_options", options.toJson)
  .ofAlternative "kind" "value" tag content

def slotsOfJson? (json : Json) : Option Slots := do
  let slots ← json.list? Json.u32?
  if size : slots.length = 8 then some ⟨slots.toArray, by simpa using size⟩ else none

/-- A missing content stands for an absent text or absent octets. -/
def ofJson? (late : Bool) (json : Json) : Option Value := do
  let part ← json.tagged? "kind" "value" tags late
  let content := part.content.getD .null
  match part.tag with
  | "bool" => content.bool?.map bool
  | "int" => content.i64?.map int
  | "str" => (content.nullable? Json.text?).map text
  | "bytes" => (content.nullable? (Json.list? Json.u8?)).map octets
  | "list" => (content.list? (Item.ofJson? part.late)).map list
  | "map" => (content.dict? Json.text?).map map
  | "slots" => (slotsOfJson? content).map slots
  | _ => (DnsOptions.ofJson? part.late content).map dnsOptions

end Value

end NetProfile
