import NetProfile.Property.Kinds

/-!
Links on top of other links: VLANs, tunnels and the like.
-/

namespace NetProfile.Settings

open Property

def priorityMapMessage : String :=
  "Enter a list of priority mappings formatted as <from>:<to>.\nExample: 2:1,3:4"

def macvlanMode : Enumeration where
  isFlags := false
  names := [("unknown", 0), ("vepa", 1), ("bridge", 2), ("private", 3), ("passthru", 4),
    ("source", 5)]
  least := some 1
  greatest := some 5
  pretty := .textOnly
  parsable := .textOnly

def tunMode : Enumeration where
  isFlags := false
  names := [("unknown", 0), ("tun", 1), ("tap", 2)]
  least := some 1
  greatest := some 2

def ipTunnelMode : Enumeration where
  isFlags := false
  names := [("unknown", 0), ("ipip", 1), ("gre", 2), ("sit", 3), ("isatap", 4), ("vti", 5),
    ("ip6ip6", 6), ("ipip6", 7), ("ip6gre", 8), ("vti6", 9), ("gretap", 10), ("ip6gretap", 11)]
  least := some 1
  greatest := some 11

def macsecMode : Enumeration where
  isFlags := false
  names := [("psk", 0), ("eap", 1)]
  least := some 0
  greatest := some 1

def macsecValidation : Enumeration where
  isFlags := false
  names := [("disable", 0), ("check", 1), ("strict", 2)]
  least := some 0
  greatest := some 2

def vlan : Setting :=
  Setting.binding { name := "vlan", title := "VLAN connection", parts := linkParts "vlan" } [
    { checked "parent" .interfaceName "Parent interface of the VLAN." with
      option := some "dev", prompt := some "VLAN parent device or connection UUID" },
    { unsigned "id" 0 4094 "VLAN identifier." with
      option := some "id", prompt := some "VLAN ID (<0-4094>)" },
    { scalar "flags" (.enumeration vlanFlags (some vlanFlagTable)) "VLAN flags." with
      option := some "flags", usual := some (.int 1) },
    { list "ingress-priority-map" { form := .priority .ingress } "Ingress priority mapping." with
      option := some "ingress", message := some priorityMapMessage },
    { list "egress-priority-map" { form := .priority .egress } "Egress priority mapping." with
      option := some "egress", message := some priorityMapMessage }]

def macvlan : Setting :=
  Setting.binding
    { name := "macvlan", title := "MACVLAN connection", parts := linkParts "macvlan" } [
    checked "parent" .interfaceName "Parent interface.",
    { enumeration "mode" macvlanMode "MACVLAN mode." with
      option := some "mode", prompt := some "MACVLAN mode" },
    { bool "promiscuous" "Whether the interface is promiscuous." with
      usual := some (.bool true) },
    { bool "tap" "Whether a macvtap device is created." with option := some "tap" }]

def vxlan : Setting :=
  Setting.binding { name := "vxlan", title := "VXLAN connection", parts := linkParts "vxlan" } [
    checked "parent" .interfaceName "Parent interface.",
    { unsigned "id" 0 16777215 "VXLAN network identifier." with option := some "id" },
    { checked "local" .address "Local source address." with option := some "local" },
    { checked "remote" .address "Remote unicast or multicast destination." with
      option := some "remote", prompt := some "Remote" },
    unsigned "source-port-min" 0 65535 "Lowest UDP source port.",
    unsigned "source-port-max" 0 65535 "Highest UDP source port.",
    { unsigned "destination-port" 0 65535 "UDP destination port." with
      option := some "destination-port", usual := some (.int 8472) },
    unsigned "tos" 0 255 "Type of service of outgoing packets.",
    unsigned "ttl" 0 255 "Time to live of outgoing packets.",
    { uint32 "ageing" "FDB entry lifetime in seconds." with usual := some (.int 300) },
    uint32 "limit" "Maximum number of FDB entries.",
    { bool "learning" "Whether unknown source addresses are learned." with
      usual := some (.bool true) },
    bool "proxy" "Whether ARP proxy is enabled.",
    bool "rsc" "Whether route short circuit is enabled.",
    bool "l2-miss",
    bool "l3-miss"]

def tun : Setting :=
  Setting.binding { name := "tun", title := "Tun device", parts := linkParts "tun" } [
    { enumeration "mode" tunMode "Operating mode." with
      option := some "mode", usual := some (.int 1) },
    { free "owner" "UID of the device owner." with option := some "owner" },
    { free "group" "GID of the device group." with option := some "group" },
    { bool "pi" "Whether packet information is prepended." with option := some "pi" },
    { bool "vnet-hdr" with option := some "vnet-hdr" },
    { bool "multi-queue" with option := some "multi-queue" }]

def ipTunnel : Setting :=
  Setting.binding { name := "ip-tunnel", title := "IP tunnel", parts := linkParts "ip-tunnel" } [
    { enumeration "mode" ipTunnelMode "Tunneling mode." with
      option := some "mode", prompt := some "Tunnel mode" },
    { checked "parent" .interfaceName with option := some "dev" },
    { checked "local" .address "Local endpoint." with option := some "local" },
    { checked "remote" .address "Remote endpoint." with
      option := some "remote", prompt := some "Remote" },
    unsigned "ttl" 0 255,
    unsigned "tos" 0 255,
    { bool "path-mtu-discovery" with usual := some (.bool true) },
    free "input-key" "Key for incoming packets.",
    free "output-key" "Key for outgoing packets.",
    { unsigned "encapsulation-limit" 0 255 with usual := some (.int 4) },
    unsigned "flow-label" 0 1048575,
    mtu "mtu"]

def macsec : Setting :=
  Setting.binding
    { name := "macsec", title := "MACsec connection"
      parts := ownParts "macsec"
        ++ [.optional "802-3-ethernet", .optional "802-1x", .optional "ethtool"] } [
    { checked "parent" .interfaceName with
      option := some "dev", prompt := some "MACsec parent device or connection UUID" },
    { enumeration "mode" macsecMode "How the CAK is obtained." with
      option := some "mode", prompt := some "Enable encryption?" },
    { bool "encrypt" "Whether data is encrypted." with
      option := some "encrypt", usual := some (.bool true) },
    { secret "mka-cak" "Static connectivity association key." with option := some "cak" },
    secrecy "mka-cak-flags",
    { free "mka-ckn" "Connectivity association key name." with option := some "ckn" },
    { integer "port" { width := .int32, least := some 1, greatest := some 65534 }
        "Port number." with
      option := some "port", usual := some (.int 1) },
    { enumeration "validation" macsecValidation "Frame validation mode." with
      usual := some (.int 2) },
    { bool "send-sci" "Whether the SCI is included in every packet." with
      usual := some (.bool true) }]

def dummy : Setting :=
  { name := "dummy", title := "Dummy settings", parts := linkParts "dummy" }

end NetProfile.Settings
