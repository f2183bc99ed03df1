import NetProfile.Property.Kinds

/-!
Features that a device may take over from the system.
-/

namespace NetProfile.Settings

open Property

def offloadFeatures : List String :=
  ["feature-esp-hw-offload", "feature-esp-tx-csum-hw-offload", "feature-fcoe-mtu", "feature-gro",
    "feature-gso", "feature-highdma", "feature-hw-tc-offload", "feature-l2-fwd-offload",
    "feature-loopback", "feature-lro", "feature-ntuple", "feature-rx", "feature-rx-all",
    "feature-rx-fcs", "feature-rx-gro-hw", "feature-rx-udp_tunnel-port-offload",
    "feature-rx-vlan-filter", "feature-rx-vlan-stag-filter", "feature-rx-vlan-stag-hw-parse",
    "feature-rxhash", "feature-rxvlan", "feature-sg", "feature-tls-hw-record",
    "feature-tls-hw-tx-offload", "feature-tso", "feature-tx", "feature-tx-checksum-fcoe-crc",
    "feature-tx-checksum-ip-generic", "feature-tx-checksum-ipv4", "feature-tx-checksum-ipv6",
    "feature-tx-checksum-sctp", "feature-tx-esp-segmentation", "feature-tx-fcoe-segmentation",
    "feature-tx-gre-csum-segmentation", "feature-tx-gre-segmentation", "feature-tx-gso-partial",
    "feature-tx-gso-robust", "feature-tx-ipxip4-segmentation", "feature-tx-ipxip6-segmentation",
    "feature-tx-nocache-copy", "feature-tx-scatter-gather", "feature-tx-scatter-gather-fraglist",
    "feature-tx-sctp-segmentation", "feature-tx-tcp-ecn-segmentation",
    "feature-tx-tcp-mangleid-segmentation", "feature-tx-tcp-segmentation",
    "feature-tx-tcp6-segmentation", "feature-tx-udp-segmentation",
    "feature-tx-udp_tnl-csum-segmentation", "feature-tx-udp_tnl-segmentation",
    "feature-tx-vlan-stag-hw-insert", "feature-txvlan"]

def ethtool : Setting :=
  Setting.binding { name := "ethtool", title := "Ethtool settings" }
    (offloadFeatures.map fun name => ternary name .onOff)

end NetProfile.Settings
