import NetProfile.Property.Kinds

/-!
Bridges and their ports.
-/

namespace NetProfile.Settings

open Property

def bridge : Setting :=
  Setting.binding { name := "bridge", title := "Bridge device", parts := linkParts "bridge" } [
    hardware "mac-address" .ethernet "MAC address of the bridge.",
    { bool "stp" "Whether Spanning Tree Protocol is enabled." with
      option := some "stp", usual := some (.bool true) },
    { unsigned "priority" 0 65535 "STP priority." with
      option := some "priority", usual := some (.int 32768) },
    { unsigned "forward-delay" 2 30 "STP forwarding delay in seconds." with
      usual := some (.int 15) },
    { unsigned "hello-time" 1 10 "STP hello time in seconds." with usual := some (.int 2) },
    { unsigned "max-age" 6 40 "STP maximum message age in seconds." with
      usual := some (.int 20) },
    { unsigned "ageing-time" 0 1000000 "Ethernet MAC ageing time in seconds." with
      usual := some (.int 300) },
    integer "group-forward-mask"
      { width := .uint32, base := .automatic, least := some 0, greatest := some 65535 }
      "Mask of group addresses to forward.",
    { bool "multicast-snooping" "Whether IGMP snooping is enabled." with
      usual := some (.bool true) },
    bool "vlan-filtering" "Whether VLAN filtering is enabled.",
    { unsigned "vlan-default-pvid" 0 4094 "Default PVID of ports." with usual := some (.int 1) }]

def bridgePort : Setting :=
  Setting.binding { name := "bridge-port", title := "Bridge port" } [
    { unsigned "priority" 0 63 "STP priority of the port." with usual := some (.int 32) },
    { unsigned "path-cost" 1 65535 "STP cost of the port." with usual := some (.int 100) },
    bool "hairpin-mode" "Whether hairpin mode is enabled."]

end NetProfile.Settings
