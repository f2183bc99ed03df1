import NetProfile.Dict
import NetProfile.Mode
import NetProfile.Net.Subnet
import NetProfile.Scalar.Truth

/-!
Static routes: `destination [next hop] [metric] [attribute=value]...`. What a token is shows only
when it is tried as an address, then as a number, then as an attribute.
-/

namespace NetProfile

inductive AttributeValue where
  | u32 (value : UInt32)
  | u8 (value : UInt8)
  | bool (value : Bool)
  | address (value : Address)
  | subnet (value : Subnet)
  | text (value : String)
deriving DecidableEq, Repr

def AttributeValue.toText : AttributeValue → String
  | u32 value => Numeral.decimalDigits value.toNat
  | u8 value => Numeral.decimalDigits value.toNat
  | bool value => if value then "true" else "false"
  | address value => value.toText
  | subnet value => value.toText
  | text value => value

inductive AttributeKind where
  | u32
  | u8
  | bool
  | address
  | subnet
  | routeType
deriving DecidableEq, Repr

structure RouteAttribute where
  name : String
  kind : AttributeKind
  families : List Family
deriving DecidableEq, Repr

namespace RouteAttribute

def all : List RouteAttribute := [
  ⟨"cwnd", .u32, [.v4, .v6]⟩,
  ⟨"from", .subnet, [.v6]⟩,
  ⟨"initcwnd", .u32, [.v4, .v6]⟩,
  ⟨"initrwnd", .u32, [.v4, .v6]⟩,
  ⟨"lock-cwnd", .bool, [.v4, .v6]⟩,
  ⟨"lock-initcwnd", .bool, [.v4, .v6]⟩,
  ⟨"lock-initrwnd", .bool, [.v4, .v6]⟩,
  ⟨"lock-mtu", .bool, [.v4, .v6]⟩,
  ⟨"lock-window", .bool, [.v4, .v6]⟩,
  ⟨"mtu", .u32, [.v4, .v6]⟩,
  ⟨"onlink", .bool, [.v4, .v6]⟩,
  ⟨"scope", .u8, [.v4]⟩,
  ⟨"src", .address, [.v4, .v6]⟩,
  ⟨"table", .u32, [.v4, .v6]⟩,
  ⟨"tos", .u8, [.v4]⟩,
  ⟨"type", .routeType, [.v4, .v6]⟩,
  ⟨"window", .u32, [.v4, .v6]⟩]

def routeTypes : List String :=
  ["unicast", "local", "blackhole", "unreachable", "prohibit", "throw"]

/-- Numbers of 32 bits are decimal, those of eight bits may be hexadecimal or octal. -/
def readValue (family : Family) (kind : AttributeKind) (text : String) : Option AttributeValue :=
  match kind with
  | .u32 => (Numeral.natural? (.fixed 10) 4294967295 text).map fun n => .u32 (UInt32.ofNat n)
  | .u8 => (Numeral.natural? .automatic 255 text).map fun n => .u8 (UInt8.ofNat n)
  | .bool => (Truth.parse text).toOption.map .bool
  | .address => (Address.ofFamily? family text).map .address
  | .subnet => (Subnet.parse family text).toOption.map .subnet
  | .routeType => if text ∈ routeTypes then some (.text text) else none

def place (token : String) : String := "invalid option '" ++ token ++ "': "

/-- Reads a `name=value` token. The value is looked at before the family. -/
def parse (family : Family) (token : String) : Except Error (String × AttributeValue) :=
  match Text.cutOnce '=' token with
  | none => .error (.invalid token (.within (place token) .emptyAttribute))
  | some (name, value) =>
    if name = "" then .error (.invalid token (.within (place token) .emptyAttribute))
    else match all.find? (·.name = name) with
      | none => .error (.invalid token (.within (place token) (.unknownAttribute name)))
      | some known =>
        match readValue family known.kind value with
        | none => .error (.invalid value (.within (place token) (.attributeValue name value)))
        | some parsed =>
          if family ∈ known.families then .ok (name, parsed)
          else .error (.invalid token (.attributeFamily name family))

end RouteAttribute

structure Route where
  destination : Address
  length : UInt8
  nextHop : Option Address := none
  /-- Minus one when it is left open. -/
  metric : Int64 := -1
  attributes : Dict AttributeValue := .empty
deriving DecidableEq, Repr

namespace Route

def hasMetric (route : Route) : Bool := route.metric ≠ -1

/-- Takes one more token. A later hop, metric or attribute of the same name replaces an earlier one.
-/
def addToken (family : Family) (route : Route) (token : String) : Except Error Route :=
  match Address.ofFamily? family token with
  | some hop =>
    if route.hasMetric || !route.attributes.isEmpty then
      .error (.ambiguous token (.lateNextHop token))
    else .ok { route with nextHop := some hop }
  | none =>
    match Numeral.natural? (.fixed 10) 4294967295 token with
    | some metric =>
      if !route.attributes.isEmpty then .error (.ambiguous token (.lateMetric token))
      else .ok { route with metric := Int64.ofNat metric }
    | none =>
      if Text.contains token '=' then do
        let (name, value) ← RouteAttribute.parse family token
        .ok { route with attributes := route.attributes.insert name value }
      else .error (.invalid token .routeToken)

def parse (family : Family) (text : String) : Except Error Route :=
  match Text.tokens text with
  | [] => .error (.invalid text (.emptyRoute text))
  | first :: rest => do
    let (part, length) ← Subnet.splitLength family first
    match Address.ofFamily? family part with
    | none => .error (.invalid first (.routeAddress family part))
    | some destination => rest.foldlM (addToken family) { destination, length }

def attributeWords (route : Route) : List String :=
  route.attributes.entries.map fun (name, value) => name ++ "=" ++ value.toText

def target (route : Route) : String :=
  route.destination.toText ++ "/" ++ Numeral.decimalDigits route.length.toNat

def metricText (route : Route) : String := Numeral.decimal route.metric.toInt

def words (route : Route) : List String :=
  [route.target] ++ (route.nextHop.map Address.toText).toList
    ++ (if route.hasMetric then [route.metricText] else []) ++ route.attributeWords

def toText (route : Route) : String := String.intercalate " " route.words

def toPretty (route : Route) : String :=
  let hop := match route.nextHop with
    | some address => ", nh = " ++ address.toText
    | none => ""
  let metric := if route.hasMetric then ", mt = " ++ route.metricText else ""
  "\x7b ip = " ++ String.intercalate " " ((route.target ++ hop ++ metric) :: route.attributeWords)
    ++ " \x7d"

def formatList (mode : Mode) (routes : List Route) : String :=
  match mode with
  | .parsable => String.intercalate ", " (routes.map toText)
  | .pretty => String.intercalate "; " (routes.map toPretty)

end Route

end NetProfile
