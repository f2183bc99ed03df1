import NetProfile.Proofs.Json.Decode
import NetProfile.Proofs.Net.Address

/-!
Trees of values. Each kind of value is written as a plain tree of small height, and its reader
inverts its writer.
-/

namespace NetProfile

open Json

theorem Address.inverts : Inverts ofJson? toJson := by
  refine .of_isLeaf (fun _ => rfl) fun address => ?_
  show Address.parse? address.toText = some address
  exact parse?_toText address

theorem Address.plain (address : Address) {height : Nat} : address.toJson.Plain height := .text height _

namespace Subnet

theorem plain (subnet : Subnet) : subnet.toJson.Plain 1 := by
  simp [toJson, Address.plain]

theorem inverts : Inverts ofJson? toJson := by
  intro subnet json reordered
  obtain ⟨values, read, _ | ⟨address, _ | ⟨length, _ | _⟩⟩⟩ := record?_of_object (by simp) reordered
  have address := Address.inverts _ _ address
  have length := inverts_u8 _ _ length
  simp only [List.map] at read
  rw [ofJson?, read]
  simp [address, length]

end Subnet

namespace AttributeValue

theorem plain (value : AttributeValue) : value.toJson.Plain 2 := by
  cases value <;> simp [toJson, Address.plain, Subnet.plain]

theorem inverts (late : Bool) : Inverts (ofJson? late) toJson := by
  intro value json reordered
  have tagged {tag : String} {content : Json} (shape : value.toJson = .ofAlternative "type" "value" tag content)
      (known : tag ∈ tags) := tagged?_of_alternative (shape ▸ reordered) (shape ▸ value.plain) (by decide) known late
  cases value with
  | u32 n =>
    obtain ⟨held, _, related, read⟩ := tagged rfl (by decide)
    simp [ofJson?, read, inverts_u32 _ _ related]
  | u8 n =>
    obtain ⟨held, _, related, read⟩ := tagged rfl (by decide)
    simp [ofJson?, read, inverts_u8 _ _ related]
  | bool b =>
    obtain ⟨held, _, related, read⟩ := tagged rfl (by decide)
    simp [ofJson?, read, inverts_bool _ _ related]
  | address a =>
    obtain ⟨held, _, related, read⟩ := tagged rfl (by decide)
    simp [ofJson?, read, Address.inverts _ _ related]
  | subnet s =>
    obtain ⟨held, _, related, read⟩ := tagged rfl (by decide)
    simp [ofJson?, read, Subnet.inverts _ _ related]
  | text t =>
    obtain ⟨held, _, related, read⟩ := tagged rfl (by decide)
    simp [ofJson?, read, inverts_text _ _ related]

end AttributeValue

namespace Route

theorem plain (route : Route) : route.toJson.Plain 4 := by
  have attributes : (ofDict AttributeValue.toJson route.attributes).Plain 3 := plain_ofDict AttributeValue.plain _
  have nextHop : (ofNullable Address.toJson route.nextHop).Plain 3 := plain_ofNullable (fun hop => hop.plain) _
  simp [toJson, Address.plain, attributes, nextHop]

theorem inverts (late : Bool) : Inverts (ofJson? late) toJson := by
  intro route json reordered
  obtain ⟨values, read, _ | ⟨destination, _ | ⟨length, _ | ⟨nextHop, _ | ⟨metric, _ | ⟨attributes, _ | _⟩⟩⟩⟩⟩⟩ :=
    record?_of_object (by simp) reordered
  have destination := Address.inverts _ _ destination
  have length := inverts_u8 _ _ length
  have nextHop := Address.inverts.nullable (fun _ => Json.noConfusion) _ _ nextHop
  have metric := inverts_i64 _ _ metric
  have attributes := (AttributeValue.inverts late).dict _ _ attributes
  simp only [List.map] at read
  rw [ofJson?, read]
  simp [destination, length, nextHop, metric, attributes]

end Route

namespace LinkWatcher

theorem ArpFlags.plain (flags : ArpFlags) : (ArpFlags.toJson flags).Plain 1 := by
  simp [ArpFlags.toJson]

theorem ArpFlags.inverts : Inverts ArpFlags.ofJson? ArpFlags.toJson := by
  intro flags json reordered
  obtain ⟨values, read, _ | ⟨active, _ | ⟨inactive, _ | ⟨always, _ | _⟩⟩⟩⟩ := record?_of_object (by simp) reordered
  have active := inverts_bool _ _ active
  have inactive := inverts_bool _ _ inactive
  have always := inverts_bool _ _ always
  simp only [List.map] at read
  rw [ArpFlags.ofJson?, read]
  simp [active, inactive, always]

theorem plain (watcher : LinkWatcher) : watcher.toJson.Plain 2 := by
  cases watcher <;> simp [toJson, timing, ArpFlags.plain]

theorem ofJson?_of_fields (watcher : LinkWatcher) {fields : List (String × Json)}
    (shape : watcher.toJson = .object (("name", .text watcher.name) :: fields)) (absent : "name" ∉ fields.map (·.1))
    (back : ∀ rest, (Json.object fields).Reordered rest → ofFields? watcher.name rest = some watcher)
    (late : Bool) {json : Json} (reordered : watcher.toJson.Reordered json) : ofJson? late json = some watcher := by
  have readable := (watcher.plain.reordered reordered).isReadable
  rw [shape] at reordered
  obtain ⟨changed, others, rfl, each, moved⟩ := reordered.of_object
  have label := member?_reordered "name" each moved
  have before : member? "name" (("name", .text watcher.name) :: fields) = some (some (.text watcher.name)) := by
    rw [member?, named_cons, if_pos rfl, named_eq_nil absent]
  rw [before] at label
  generalize found : member? "name" others = held at label
  cases label with
  | some label =>
    cases label with
    | some label =>
      obtain rfl := label.eq_of_isLeaf rfl
      have known : watcher.name ∈ tags := by cases watcher <;> simp [name, tags]
      have others' : fields.filter (·.1 ≠ "name") = fields :=
        List.filter_eq_self.2 fun field here => by
          simpa using fun same : field.1 = "name" => absent (same ▸ List.mem_map_of_mem here)
      have rest := Reordered.filter (· ≠ "name") each moved
      rw [List.filter_cons_of_neg (by simp), others'] at rest
      simp only [ofJson?, readable, named_of_member? found, fieldTag?, if_pos known]
      exact back _ rest

theorem ofFields?_ethtool {delayUp delayDown : UInt32} {json : Json}
    (reordered : (Json.object [("delay_up", .ofNatural delayUp.toNat),
      ("delay_down", .ofNatural delayDown.toNat)]).Reordered json) :
    ofFields? "ethtool" json = some (ethtool delayUp delayDown) := by
  obtain ⟨values, read, _ | ⟨up, _ | ⟨down, _ | _⟩⟩⟩ := record?_of_object (by simp) reordered
  have up := inverts_u32 _ _ up
  have down := inverts_u32 _ _ down
  simp only [List.map] at read
  simp [ofFields?, read, up, down]

theorem probe?_eq {probe : Probe} {wait interval missed target : Json}
    (isWait : (Json.ofNatural probe.initWait.toNat).Reordered wait)
    (isInterval : (Json.ofNatural probe.interval.toNat).Reordered interval)
    (isMissed : (Json.ofNatural probe.missedMax.toNat).Reordered missed)
    (isTarget : (Json.text probe.targetHost).Reordered target) :
    probe? wait interval missed target = some probe := by
  have wait := inverts_u32 _ _ isWait
  have interval := inverts_u32 _ _ isInterval
  have missed := inverts_u32 _ _ isMissed
  have target := inverts_text _ _ isTarget
  simp [probe?, wait, interval, missed, target]

theorem ofFields?_nsnaPing {probe : Probe} {json : Json}
    (reordered : (Json.object (timing probe ++ [("target_host", .text probe.targetHost)])).Reordered json) :
    ofFields? "nsna_ping" json = some (nsnaPing probe) := by
  obtain ⟨values, read, _ | ⟨wait, _ | ⟨interval, _ | ⟨missed, _ | ⟨target, _ | _⟩⟩⟩⟩⟩ :=
    record?_of_object (by simp [timing]) reordered
  have probe := probe?_eq wait interval missed target
  simp only [timing, List.cons_append, List.nil_append, List.map] at read
  simp [ofFields?, read, probe]

theorem ofFields?_arpPing {probe : Probe} {vlan : Int32} {sourceHost : String} {flags : ArpFlags} {json : Json}
    (reordered : (Json.object (timing probe ++ [("vlanid", .int vlan.toInt), ("target_host", .text probe.targetHost),
      ("source_host", .text sourceHost), ("flags", ArpFlags.toJson flags)])).Reordered json) :
    ofFields? "arp_ping" json = some (arpPing probe vlan sourceHost flags) := by
  obtain ⟨values, read, _ | ⟨wait, _ | ⟨interval, _ | ⟨missed, _ | ⟨vlan, _ | ⟨target, _ | ⟨source, _ | ⟨flags,
    _ | _⟩⟩⟩⟩⟩⟩⟩⟩ := record?_of_object (by simp [timing]) reordered
  have probe := probe?_eq wait interval missed target
  have vlan := inverts_i32 _ _ vlan
  have source := inverts_text _ _ source
  have flags := ArpFlags.inverts _ _ flags
  simp only [timing, List.cons_append, List.nil_append, List.map] at read
  simp [ofFields?, read, probe, vlan, source, flags]

theorem inverts (late : Bool) : Inverts (ofJson? late) toJson := by
  intro watcher json reordered
  cases watcher with
  | ethtool delayUp delayDown =>
    exact ofJson?_of_fields (ethtool delayUp delayDown) rfl (by simp) (fun _ => ofFields?_ethtool) late
      reordered
  | nsnaPing probe =>
    exact ofJson?_of_fields (nsnaPing probe) rfl (by simp [timing]) (fun _ => ofFields?_nsnaPing) late
      reordered
  | arpPing probe vlan sourceHost flags =>
    exact ofJson?_of_fields (arpPing probe vlan sourceHost flags) rfl (by simp [timing])
      (fun _ => ofFields?_arpPing) late reordered

end LinkWatcher

namespace PriorityEntry

theorem plain (entry : PriorityEntry) : entry.toJson.Plain 1 := by
  have target : (ofNullable (fun target : UInt32 => ofNatural target.toNat) entry.target).Plain 0 :=
    plain_ofNullable (fun target => plain_u32 target) _
  simp [toJson, target]

theorem inverts : Inverts ofJson? toJson := by
  intro entry json reordered
  obtain ⟨values, read, _ | ⟨source, _ | ⟨target, _ | _⟩⟩⟩ := record?_of_object (by simp) reordered
  have source := inverts_u32 _ _ source
  have target := inverts_u32.nullable (fun _ => Json.noConfusion) _ _ target
  simp only [List.map] at read
  rw [ofJson?, read]
  simp [source, target]

end PriorityEntry

namespace FunctionVlan

theorem plain (vlan : FunctionVlan) : vlan.toJson.Plain 1 := by
  simp [toJson]

theorem inverts (late : Bool) : Inverts (ofJson? late) toJson := by
  intro vlan json reordered
  obtain ⟨values, read, _ | ⟨id, _ | ⟨qos, _ | ⟨protocol, _ | _⟩⟩⟩⟩ := record?_of_object (by simp) reordered
  have id := inverts_u32 _ _ id
  have qos := inverts_u32 _ _ qos
  obtain rfl := protocol.eq_of_isLeaf rfl
  simp only [List.map] at read
  rw [ofJson?, read]
  simp [id, qos, caseName?, protocol?_name]

end FunctionVlan

namespace VirtualFunction

theorem plain (function : VirtualFunction) : function.toJson.Plain 3 := by
  have attributes : (ofDict .text function.attributes).Plain 2 := plain_ofDict plain_text _
  have vlans : (Json.array (function.vlans.map FunctionVlan.toJson)).Plain 2 := plain_map FunctionVlan.plain _
  simp [toJson, attributes, vlans]

theorem inverts (late : Bool) : Inverts (ofJson? late) toJson := by
  intro function json reordered
  obtain ⟨values, read, _ | ⟨index, _ | ⟨attributes, _ | ⟨vlans, _ | _⟩⟩⟩⟩ := record?_of_object (by simp) reordered
  have index := inverts_u32 _ _ index
  have attributes := inverts_text.dict _ _ attributes
  have vlans := (FunctionVlan.inverts late).list _ _ vlans
  simp only [List.map] at read
  rw [ofJson?, read]
  simp [index, attributes, vlans]

end VirtualFunction

namespace Qdisc

theorem plain (qdisc : Qdisc) : qdisc.toJson.Plain 1 := by
  simp [toJson]

theorem inverts : Inverts ofJson? toJson := by
  intro qdisc json reordered
  obtain ⟨values, read, _ | ⟨kind, _ | ⟨handle, _ | ⟨parent, _ | _⟩⟩⟩⟩ := record?_of_object (by simp) reordered
  have kind := inverts_text _ _ kind
  have handle := inverts_u32 _ _ handle
  have parent := inverts_u32 _ _ parent
  simp only [List.map] at read
  rw [ofJson?, read]
  simp [kind, handle, parent]

end Qdisc

namespace Item

theorem plain (item : Item) : item.toJson.Plain 5 := by
  cases item with
  | text => exact .object (by simp)
  | address value => exact plain_ofAlternative.2 (value.plain.mono (by decide))
  | route value => exact plain_ofAlternative.2 value.plain
  | watcher value => exact plain_ofAlternative.2 (value.plain.mono (by decide))
  | priority value => exact plain_ofAlternative.2 (value.plain.mono (by decide))
  | function value => exact plain_ofAlternative.2 (value.plain.mono (by decide))
  | qdisc value => exact plain_ofAlternative.2 (value.plain.mono (by decide))

theorem inverts (late : Bool) : Inverts (ofJson? late) toJson := by
  intro item json reordered
  have tagged {tag : String} {content : Json} (shape : item.toJson = .ofAlternative "type" "item" tag content)
      (known : tag ∈ tags) := tagged?_of_alternative (shape ▸ reordered) (shape ▸ item.plain) (by decide) known late
  cases item with
  | text value =>
    obtain ⟨held, _, related, read⟩ := tagged rfl (by decide)
    simp [ofJson?, read, inverts_text _ _ related]
  | address value =>
    obtain ⟨held, _, related, read⟩ := tagged rfl (by decide)
    simp [ofJson?, read, Subnet.inverts _ _ related]
  | route value =>
    obtain ⟨held, readLate, related, read⟩ := tagged rfl (by decide)
    simp [ofJson?, read, Route.inverts readLate _ _ related]
  | watcher value =>
    obtain ⟨held, readLate, related, read⟩ := tagged rfl (by decide)
    simp [ofJson?, read, LinkWatcher.inverts readLate _ _ related]
  | priority value =>
    obtain ⟨held, _, related, read⟩ := tagged rfl (by decide)
    simp [ofJson?, read, PriorityEntry.inverts _ _ related]
  | function value =>
    obtain ⟨held, readLate, related, read⟩ := tagged rfl (by decide)
    simp [ofJson?, read, VirtualFunction.inverts readLate _ _ related]
  | qdisc value =>
    obtain ⟨held, _, related, read⟩ := tagged rfl (by decide)
    simp [ofJson?, read, Qdisc.inverts _ _ related]

end Item

namespace DnsOptions

theorem plain (options : DnsOptions) : options.toJson.Plain 2 := by
  cases options with
  | unset | empty => exact .object (by simp)
  | populated options => exact plain_ofAlternative.2 (plain_map plain_text options)

theorem tagged?_of_state {state : String} (known : state ∈ tags) {json : Json}
    (reordered : (Json.object [("state", .text state)]).Reordered json) (late : Bool) :
    ∃ readLate, json.tagged? "state" "options" tags late = some ⟨state, none, readLate⟩ := by
  have whole : (Json.object [("state", .text state)]).Plain 1 := .object (by simp)
  have isTag : member? "state" [("state", .text state)] = some (some (.text state)) := rfl
  have noContent : member? "options" [("state", .text state)] = some none := rfl
  obtain ⟨held, readLate, related, read⟩ := tagged?_of_object isTag noContent known whole reordered late
  cases related with
  | none => exact ⟨readLate, read⟩

theorem inverts (late : Bool) : Inverts (ofJson? late) toJson := by
  intro options json reordered
  have tagged {tag : String} {content : Json} (shape : options.toJson = .ofAlternative "state" "options" tag content)
      (known : tag ∈ tags) := tagged?_of_alternative (shape ▸ reordered) (shape ▸ options.plain) (by decide) known late
  cases options with
  | unset =>
    obtain ⟨_, read⟩ := tagged?_of_state (by decide) reordered late
    simp [ofJson?, read]
  | empty =>
    obtain ⟨_, read⟩ := tagged?_of_state (by decide) reordered late
    simp [ofJson?, read]
  | populated options =>
    obtain ⟨held, _, related, read⟩ := tagged rfl (by decide)
    simp [ofJson?, read, inverts_text.list _ _ related]

end DnsOptions

namespace Value

theorem inverts_slots :
    Inverts slotsOfJson? fun slots : Slots => .array (slots.toList.map fun n => .ofNatural n.toNat) := by
  intro slots json reordered
  have read := inverts_u32.list _ _ reordered
  have whole : slots.toList.toArray = slots.toArray := Array.toArray_toList
  simp [slotsOfJson?, read, whole]

theorem inverts_octets : Inverts (nullable? (Json.list? Json.u8?))
    (ofNullable fun bytes => .array (bytes.map fun b => .ofNatural b.toNat)) :=
  inverts_u8.list.nullable fun _ => Json.noConfusion

theorem inverts_nullableText : Inverts (nullable? Json.text?) (ofNullable .text) :=
  inverts_text.nullable fun _ => Json.noConfusion

theorem plain (value : Value) : value.toJson.Plain 7 := by
  cases value with
  | bool | int => exact plain_ofAlternative.2 (by simp)
  | text value => exact plain_ofAlternative.2 (plain_ofNullable plain_text value)
  | octets value => exact plain_ofAlternative.2 (plain_ofNullable (plain_map plain_u8) value)
  | list items => exact plain_ofAlternative.2 (plain_map Item.plain items)
  | map entries => exact plain_ofAlternative.2 (plain_ofDict plain_text entries)
  | slots slots => exact plain_ofAlternative.2 (plain_map plain_u32 slots.toList)
  | dnsOptions options => exact plain_ofAlternative.2 (options.plain.mono (by decide))

theorem inverts (late : Bool) : Inverts (ofJson? late) toJson := by
  intro value json reordered
  have tagged {tag : String} {content : Json} (shape : value.toJson = .ofAlternative "kind" "value" tag content)
      (known : tag ∈ tags) := tagged?_of_alternative (shape ▸ reordered) (shape ▸ value.plain) (by decide) known late
  cases value with
  | bool value =>
    obtain ⟨held, _, related, read⟩ := tagged rfl (by decide)
    simp [ofJson?, read, inverts_bool _ _ related]
  | int value =>
    obtain ⟨held, _, related, read⟩ := tagged rfl (by decide)
    simp [ofJson?, read, inverts_i64 _ _ related]
  | text value =>
    obtain ⟨held, _, related, read⟩ := tagged rfl (by decide)
    simp [ofJson?, read, inverts_nullableText _ _ related]
  | octets value =>
    obtain ⟨held, _, related, read⟩ := tagged rfl (by decide)
    simp [ofJson?, read, inverts_octets _ _ related]
  | list items =>
    obtain ⟨held, readLate, related, read⟩ := tagged rfl (by decide)
    simp [ofJson?, read, (Item.inverts readLate).list _ _ related]
  | map entries =>
    obtain ⟨held, _, related, read⟩ := tagged rfl (by decide)
    simp [ofJson?, read, inverts_text.dict _ _ related]
  | slots slots =>
    obtain ⟨held, _, related, read⟩ := tagged rfl (by decide)
    simp [ofJson?, read, inverts_slots _ _ related]
  | dnsOptions options =>
    obtain ⟨held, readLate, related, read⟩ := tagged rfl (by decide)
    simp [ofJson?, read, DnsOptions.inverts readLate _ _ related]

end Value

end NetProfile
