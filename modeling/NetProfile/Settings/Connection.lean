import NetProfile.Property.Kinds

/-!
The identity of a profile, when it is used, and settings that go with any type.
-/

namespace NetProfile.Settings

open Property

def slaveTypes : List String :=
  ["bond", "bridge", "ovs-bridge", "ovs-port", "team"]

def multiConnect : Enumeration where
  isFlags := false
  names := [("default", 0), ("single", 1), ("manual-multiple", 2), ("multiple", 3)]
  least := some 0
  greatest := some 3

def autoconnectSlaves : Enumeration where
  isFlags := false
  names := [("default", -1), ("no", 0), ("yes", 1)]
  least := some (-1)
  greatest := some 1

def lldp : Enumeration where
  isFlags := false
  names := [("default", -1), ("disable", 0), ("enable-rx", 1)]
  least := some (-1)
  greatest := some 1
  pretty := .textOnly
  parsable := .textOnly

def mdns : Enumeration where
  isFlags := false
  names := [("default", -1), ("no", 0), ("resolve", 1), ("yes", 2)]
  least := some (-1)
  greatest := some 2

def llmnr : Enumeration where
  isFlags := false
  names := [("default", -1), ("no", 0), ("resolve", 1), ("yes", 2)]
  least := some (-1)
  greatest := some 2

def permissionsMessage : String :=
  "Enter a list of user permissions. This is a list of user names formatted as:\n" ++
  "  [user:]<user name 1>, [user:]<user name 2>,...\n" ++
  "The items can be separated by commas or spaces.\n" ++
  "\n" ++
  "Example: alice bob charlie"

def secondariesMessage : String :=
  "Enter secondary connections that should be activated when this connection is\n" ++
  "activated, given by UUID. Only VPNs are supported as secondary connections.\n" ++
  "The items can be separated by commas or spaces.\n" ++
  "\n" ++
  "Example: fe6ba5d8-c2fc-4aae-b2e3-97efddd8d9a7"

def meteredMessage : String :=
  "Enter a value which indicates whether the connection is subject to a data\n" ++
  "quota, usage costs or other limitations. Accepted options are:\n" ++
  "'true','yes','on' to set the connection as metered\n" ++
  "'false','no','off' to set the connection as not metered\n" ++
  "'unknown' to let NetworkManager choose a value using some heuristics"

def proxyMethod : Enumeration where
  isFlags := false
  names := [("none", 0), ("auto", 1)]
  least := some 0
  greatest := some 1
  pretty := .textOnly
  parsable := .textOnly

def connection : Setting :=
  Setting.binding { name := "connection", title := "General settings" } [
    { free "id" "A human readable unique identifier for the connection." with
      option := some "con-name" },
    { checked "uuid" .uuid "A universally unique identifier for the connection." with
      isReadOnly := true },
    free "stable-id" "Token to generate stable IDs for the connection.",
    { special "type" .connectionType "Base type of the connection." with
      option := some "type", prompt := some "Connection type", completer := some .connectionType },
    { checked "interface-name" .interfaceName
        "The name of the network interface this connection is bound to." with
      option := some "ifname", prompt := some "Interface name [*]", completer := some .device
      namesDevices := true },
    { bool "autoconnect" "Whether the connection is activated automatically." with
      option := some "autoconnect", usual := some (.bool true) },
    integer "autoconnect-priority"
      { width := .int32, least := some (-999), greatest := some 999 }
      "Priority of automatic activation; higher values win.",
    { integer "autoconnect-retries"
        { width := .int32, least := some (-1), greatest := some 2147483647
          aliases := [("default", -1), ("forever", 0)] }
        "How many times activation is retried before giving up." with
      usual := some (.int (-1)) },
    enumeration "multi-connect" multiConnect
      "Whether the connection may be active on several devices at once.",
    { integer "auth-retries"
        { width := .int32, least := some (-1), greatest := some 2147483647
          aliases := [("default", -1)] }
        "Number of authentication retries before failing." with
      usual := some (.int (-1)) },
    { integer "timestamp" { width := .uint64 }
        "Time the connection was last activated, in seconds since the epoch." with
      isReadOnly := true },
    { bool "read-only" "Whether the connection may not be modified." with isReadOnly := true },
    { checkedTexts "permissions" .permission "Users allowed to activate the connection." with
      message := some permissionsMessage },
    free "zone" "The firewall zone of the connection.",
    { checked "master" .master "Interface name or UUID of the master connection." with
      option := some "master", prompt := some "Master", completer := some .master },
    { choice "slave-type" slaveTypes "Setting name of the master connection type." with
      option := some "slave-type" },
    { enumeration "autoconnect-slaves" autoconnectSlaves
        "Whether activating a master also activates its slaves." with
      usual := some (.int (-1)) },
    { checkedTexts "secondaries" .uuid "Connections activated together with this one." with
      message := some secondariesMessage },
    unsigned "gateway-ping-timeout" 0 600 "Seconds to wait for the gateway to answer a ping.",
    { ternary "metered" .yesNo "Whether the connection is metered." with
      message := some meteredMessage },
    { enumeration "lldp" lldp "Whether LLDP frames are received." with
      usual := some (.int (-1)) },
    { enumeration "mdns" mdns "Whether mDNS is enabled." with usual := some (.int (-1)) },
    { enumeration "llmnr" llmnr "Whether LLMNR is enabled." with usual := some (.int (-1)) }]

def matching : Setting :=
  Setting.binding { name := "match", title := "Match" } [
    texts "interface-name"
      "Interface names (with optional wildcards) the connection applies to."]

def proxy : Setting :=
  Setting.binding { name := "proxy", title := "HTTP Proxy" } [
    enumeration "method" proxyMethod "Proxy configuration method.",
    bool "browser-only" "Whether the proxy applies to browsers only.",
    free "pac-url" "URL of the PAC file.",
    free "pac-script" "JavaScript PAC script."]

def user : Setting :=
  Setting.binding { name := "user", title := "User settings" } [
    options "data" {} "Arbitrary user data."]

def generic : Setting :=
  { name := "generic", title := "Generic settings", parts := ownParts "generic" }

end NetProfile.Settings
