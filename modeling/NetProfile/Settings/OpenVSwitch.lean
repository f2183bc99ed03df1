import NetProfile.Property.Kinds

/-!
Bridges, ports and interfaces of Open vSwitch.
-/

namespace NetProfile.Settings

open Property

def ovsBridge : Setting :=
  Setting.binding
    { name := "ovs-bridge", title := "Open vSwitch bridge settings"
      parts := ownParts "ovs-bridge" } [
    choice "fail-mode" ["secure", "standalone"] "Fail mode of the bridge.",
    bool "mcast-snooping-enable",
    bool "rstp-enable",
    bool "stp-enable",
    choice "datapath-type" ["system", "netdev"]]

def ovsPort : Setting :=
  Setting.binding
    { name := "ovs-port", title := "Open vSwitch port settings", parts := ownParts "ovs-port" } [
    choice "vlan-mode" ["access", "native-tagged", "native-untagged", "trunk"]
      "VLAN mode of the port.",
    unsigned "tag" 0 4094 "VLAN tag.",
    choice "lacp" ["active", "off", "passive"],
    choice "bond-mode" ["active-backup", "balance-slb", "balance-tcp"],
    uint32 "bond-updelay",
    uint32 "bond-downdelay"]

def ovsInterface : Setting :=
  Setting.binding
    { name := "ovs-interface", title := "Open vSwitch interface settings"
      parts := ownParts "ovs-interface"
        ++ [.optional "ovs-patch", .optional "ipv4", .optional "ipv6", .optional "802-3-ethernet",
          .optional "ethtool"] } [
    choice "type" ["internal", "system", "patch", "dpdk"] "Interface type."]

def ovsPatch : Setting :=
  Setting.binding { name := "ovs-patch", title := "Open vSwitch patch interface settings" } [
    checked "peer" .interfaceName "Interface name of the patch peer."]

def ovsDpdk : Setting :=
  Setting.binding { name := "ovs-dpdk", title := "Open vSwitch DPDK interface settings" } [
    free "devargs" "DPDK device arguments."]

end NetProfile.Settings
