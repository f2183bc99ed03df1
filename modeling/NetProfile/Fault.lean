import NetProfile.Net.Family
import NetProfile.Numeral

/-!
What can be wrong with a text. `Fault` has one constructor for each cause, `Fault.message` the
wording of all of them.
-/

namespace NetProfile

/-- What can be wrong with one `key=value` token of a link watcher. -/
inductive WatcherFault where
  | noValue
  | notPair
  | notCount
  | notVlan
  | unknownKey
deriving DecidableEq, Repr

def WatcherFault.message : WatcherFault → String
  | .noValue => "missing key value"
  | .notPair => "properties should be specified as 'key=value'"
  | .notCount => "value is not a valid number [0, MAXINT]"
  | .notVlan => "value is not a valid number [-1, 4094]"
  | .unknownKey => "unknown key"

inductive Fault where
  /-- A reason given in words. -/
  | stated (reason : String)
  /-- A fault found inside a larger text, with words that say where. -/
  | within (place : String) (inner : Fault)
  | notValid (text : String)
  -- plain values
  | notTruth (text : String) (trueWords falseWords : List String)
  | notTernary (token yes no unset : String)
  | notAmong (text : String) (allowed : List String)
  | manyAmong (text first second : String)
  | notOneOf (text : String) (names : List String)
  | notCombination (text : String) (names : List String)
  | notFeature (token : String)
  | notHexString (text : String)
  | notHexByte (token : String)
  | emptyValue
  -- names and addresses
  | notHardwareAddress (text : String) (medium : Option String)
  | notAddress (text : String)
  | notAddressOf (family : Family) (text : String)
  | serverAddress (family : Family) (text : String)
  | subnetAddress (family : Family) (text : String)
  | prefixLength (text : String) (longest : Nat)
  | emptyInterfaceName
  | longInterfaceName (limit : Nat)
  | notInterfaceName (text : String)
  | notUuid (text : String)
  | hostnameLength (text : String)
  | hostnameLabel (label text : String)
  | notDomain (text : String)
  | notOperator
  | notMaster (text : String)
  | teamNotObject
  | teamNotJson (text detail : String)
  -- records
  | emptyRoute (text : String)
  | routeAddress (family : Family) (text : String)
  | routeToken
  | lateNextHop (token : String)
  | lateMetric (token : String)
  | emptyAttribute
  | unknownAttribute (name : String)
  | attributeValue (name value : String)
  | attributeFamily (name : String) (family : Family)
  | watcherToken (token : String) (fault : WatcherFault)
  | unknownWatcher (name : String)
  | priorityMap (text : String)
  | functionIndex (text : String)
  | functionToken (token : String)
  | functionVlan (text : String)
  | functionList (detail : String)
  | handle (text : String)
  | repeatedWord (word : String)
  | afterKind (token : String)
  | qdiscList (detail : String)
  | notPair (text : String)
  | optionValue (key value : String)
  | emptyOption (value : String)
  | slotCount
  | slotValue (token : String) (largest : Nat) (other : Option Nat)
  | percentTotal
  -- properties
  | wepKeyType (key type : String)
  | notDnsOption (text : String)
  | notChannel (number : Int)
  | notConnectionType (name : String)
  | notMasterType (name : String)
  | typeIsFixed
  | readOnly (property : String)
  | otherKind (expected given : String)
deriving DecidableEq, Repr

namespace Fault

def routeUsage : String :=
  "The valid syntax is: 'ip[/prefix] [next-hop] [metric] [attribute=val]... [,ip[/prefix] ...]'"

def functionUsage : String :=
  "The valid syntax is: vf [attribute=value]... [,vf [attribute=value]...]"

def qdiscUsage : String :=
  "The valid syntax is: '[root | parent <handle>] [handle <handle>] <qdisc>'"

def wordList (words : List String) : String := String.intercalate ", " words

def nameList (names : List String) : String := String.intercalate "," names

def message : Fault → String
  | stated reason => reason
  | within place inner => place ++ inner.message
  | notValid text => s!"'{text}' is not valid"
  | notTruth text trueWords falseWords =>
    s!"'{text}' is not valid; use [{wordList trueWords}] or [{wordList falseWords}]"
  | notTernary token yes no unset =>
    s!"'{token}' is not valid; use '{yes}', '{no}', or '{unset}'"
  | notAmong text allowed => s!"'{text}' not among [{wordList allowed}]"
  | manyAmong text first second => s!"'{text}' is ambiguous ({first} x {second})"
  | notOneOf text names => s!"invalid option '{text}', use one of [{nameList names}]"
  | notCombination text names =>
    s!"invalid option '{text}', use a combination of [{nameList names}]"
  | notFeature token => s!"'{token}' is not a valid DCB flag"
  | notHexString text => s!"'{text}' is not a valid hex-string"
  | notHexByte token => s!"'{token}' is not a valid hex character"
  | emptyValue => "value cannot be empty"
  | notHardwareAddress text (some medium) => s!"'{text}' is not a valid {medium} MAC"
  | notHardwareAddress text none => s!"'{text}' is not a valid MAC"
  | notAddress text => s!"'{text}' is not a valid IP address"
  | notAddressOf family text => s!"'{text}' is not a valid {family.label} address"
  | serverAddress family text => s!"invalid {family.label} address '{text}'"
  | subnetAddress family text => s!"invalid IP address: Invalid {family.label} address '{text}'"
  | prefixLength text longest =>
    s!"invalid prefix '{text}'; <1-{Numeral.decimalDigits longest}> allowed"
  | emptyInterfaceName => "interface name must not be empty"
  | longInterfaceName limit =>
    s!"interface name is longer than {Numeral.decimalDigits limit} characters"
  | notInterfaceName text => s!"'{text}' is not a valid interface name"
  | notUuid text => s!"the value '{text}' is not a valid UUID"
  | hostnameLength text => s!"Hostname must be 1-253 characters: {text}"
  | hostnameLabel label text => s!"Invalid label '{label}' in '{text}'"
  | notDomain text => s!"'{text}' is not a valid DNS domain"
  | notOperator => "SIM operator ID must be a 5 or 6 number MCCMNC code"
  | notMaster text => s!"'{text}' is not valid master; use ifname or connection UUID"
  | teamNotObject => "team configuration must be a JSON object"
  | teamNotJson text detail => s!"'{text}' is not a valid team configuration: {detail}"
  | emptyRoute text => s!"'{text}' is not valid. {routeUsage}"
  | routeAddress family text =>
    s!"invalid route: Invalid {family.label} address '{text}'. {routeUsage}"
  | routeToken => routeUsage
  | lateNextHop token => s!"the next hop ('{token}') must be first"
  | lateMetric token => s!"the metric ('{token}') must be before attributes"
  | emptyAttribute => "attribute name is empty"
  | unknownAttribute name => s!"unknown attribute '{name}'"
  | attributeValue name value => s!"invalid value '{value}' for attribute '{name}'"
  | attributeFamily name family =>
    s!"{name}: attribute is not valid for an {family.label} route"
  | watcherToken token fault => s!"'{token}' is not valid: {fault.message}"
  | unknownWatcher name => s!"unknown link watcher name: '{name}'"
  | priorityMap text => s!"invalid priority map '{text}'"
  | functionIndex text => s!"invalid index '{text}'"
  | functionToken token => s!"attribute '{token}' must be key=value"
  | functionVlan text => s!"invalid VLAN '{text}'"
  | functionList detail => s!"{detail}. {functionUsage}"
  | handle text => s!"invalid handle: '{text}'"
  | repeatedWord word => s!"'{word}' specified more than once."
  | afterKind token => s!"unexpected '{token}' after qdisc kind."
  | qdiscList detail => s!"{detail} {qdiscUsage}"
  | notPair text => s!"'{text}' is not valid; use <option>=<value>"
  | optionValue key value => s!"'{value}' is not a valid value for '{key}'"
  | emptyOption value => s!"'{value}' cannot be empty"
  | slotCount => "must contain 8 comma-separated numbers"
  | slotValue token largest none =>
    s!"'{token}' not a number between 0 and {Numeral.decimalDigits largest} (inclusive)"
  | slotValue token largest (some other) =>
    s!"'{token}' not a number between 0 and {Numeral.decimalDigits largest} (inclusive)"
      ++ s!" or {Numeral.decimalDigits other}"
  | percentTotal => "bandwidth percentages must total 100%"
  | wepKeyType key type =>
    s!"'{key}' not compatible with wep-key-type '{type}', "
      ++ "please change the key or set the right wep-key-type first."
  | notDnsOption text => s!"'{text}' is not a valid DNS option"
  | notChannel number => s!"'{Numeral.decimal number}' is not a valid channel"
  | notConnectionType name => s!"'{name}' is not a valid connection type"
  | notMasterType name => s!"invalid slave type '{name}'"
  | typeIsFixed => "Can not change the connection type"
  | readOnly property => s!"'{property}' is read-only"
  | otherKind expected given => s!"expected {expected} value, got {given}"

end Fault

end NetProfile
