import NetProfile.Choice
import NetProfile.Dict
import NetProfile.MergePolicy
import NetProfile.Net.Address
import NetProfile.Text.Utf8

/-!
Maps of options, written `key=value` with commas between them. A rule for values says which of them
are accepted, in which form they are kept and how they are shown.
-/

namespace NetProfile

inductive OptionRule where
  | free
  | nonEmpty
  /-- One to 199 bytes. -/
  | short
  /-- Options of the bonding driver. The mode is kept by its name; the targets of ARP probes are
  kept with commas and shown with spaces, as commas would end the option. -/
  | bond
deriving DecidableEq, Repr

namespace OptionRule

def bondModes : List String :=
  ["balance-rr", "active-backup", "balance-xor", "broadcast", "802.3ad", "balance-tlb",
    "balance-alb"]

def readTarget (text : String) : Except Error String := (Address.read .v4 text).map fun _ => text

def bondValue (key value : String) : Except Error String :=
  if key = "mode" then
    if value ∈ bondModes then .ok value
    else match (Numeral.natural? (.fixed 10) 6 value).bind (bondModes[·]?) with
      | some mode => .ok mode
      | none => .error (.invalid value (.optionValue key value))
  else if key = "arp_ip_target" then do
    let targets ← readItems (fun c => c == ' ' || c == ',') readTarget value
    .ok (String.intercalate "," targets)
  else if value = "" then .error (.invalid value (.optionValue key value))
  else .ok value

def check (rule : OptionRule) (key value : String) : Except Error String :=
  match rule with
  | free => .ok value
  | nonEmpty => if value = "" then .error (.invalid value (.emptyOption value)) else .ok value
  | short =>
    if value = "" ∨ 200 ≤ Text.byteLength value then
      .error (.invalid value (.optionValue key value))
    else .ok value
  | bond => bondValue key value

def shown (rule : OptionRule) (key value : String) : String :=
  if rule = bond ∧ key = "arp_ip_target" then
    String.ofList (value.toList.map fun c => if c = ',' then ' ' else c)
  else value

end OptionRule

/-- What a map of options may hold and how it is written. -/
structure OptionMap where
  /-- The only keys there are; they may be shortened. -/
  keys : Option (List String) := none
  rule : OptionRule := .free
  /-- Whether to put spaces around signs. -/
  spaced : Bool := false
deriving DecidableEq, Repr

namespace OptionMap

def resolve (spec : OptionMap) (key : String) : Except Error String :=
  match spec.keys with
  | some keys => choose keys key
  | none => .ok key

def readPair (spec : OptionMap) (item : String) : Except Error (String × String) :=
  match Text.cutOnce '=' item with
  | none => .error (.invalid item (.notPair (Text.trim item)))
  | some (key, value) => do
    let key ← spec.resolve (Text.trim key)
    let value ← spec.rule.check key (Text.trim value)
    .ok (key, value)

def parse (spec : OptionMap) (text : String) : Except Error (List (String × String)) :=
  readItems Text.isComma spec.readPair text

/-- Later pairs win over earlier ones and over what the map holds. -/
def add (spec : OptionMap) (map : Dict String) (text : String) : Except Error (Dict String) := do
  let pairs ← spec.parse text
  .ok (pairs.foldl (fun map (key, value) => map.insert key value) map)

/-- Drops the listed keys, whether they are there or not. -/
def remove (spec : OptionMap) (map : Dict String) (text : String) :
    Except Error (Dict String) := do
  let keys ← readItems Text.isComma (fun key => spec.resolve (Text.trim key)) text
  .ok (keys.foldl Dict.erase map)

def format (spec : OptionMap) (map : Dict String) : String :=
  let sign := if spec.spaced then " = " else "="
  let comma := if spec.spaced then ", " else ","
  String.intercalate comma (map.entries.map fun (key, value) =>
    key ++ sign ++ spec.rule.shown key value)

end OptionMap

def bondOptions : OptionMap where
  keys := some ["mode", "miimon", "downdelay", "updelay", "arp_interval", "arp_ip_target",
    "arp_validate", "arp_all_targets", "primary", "primary_reselect", "fail_over_mac",
    "use_carrier", "ad_select", "xmit_hash_policy", "resend_igmp", "lacp_rate", "active_slave",
    "ad_actor_sys_prio", "ad_actor_system", "ad_user_port_key", "all_slaves_active", "min_links",
    "num_grat_arp", "num_unsol_na", "packets_per_slave", "tlb_dynamic_lb", "lp_interval"]
  rule := .bond

def s390Options : OptionMap where
  keys := some ["portno", "layer2", "portname", "protocol", "priority_queueing", "buffer_count",
    "isolation", "total", "inter", "inter_jumbo", "intra", "intra_jumbo", "broadcast_mode",
    "canonical_macaddr", "checksumming", "fake_broadcast", "ipato_add4", "ipato_add6",
    "ipato_enable", "ipato_invert4", "ipato_invert6", "large_send", "route4", "route6", "sniffer",
    "vipa_add4", "vipa_add6", "rxip_add4", "rxip_add6"]
  rule := .short

def vpnItems : OptionMap where
  rule := .nonEmpty
  spaced := true

end NetProfile
