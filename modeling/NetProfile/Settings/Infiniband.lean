import NetProfile.Property.Kinds

/-!
InfiniBand and low-power radio links.
-/

namespace NetProfile.Settings

open Property

def shortIdentifier : IntegerRule where
  width := .uint32
  base := .hexadecimal
  least := some 0
  greatest := some 65535

def infiniband : Setting :=
  Setting.binding
    { name := "infiniband", title := "InfiniBand"
      parts := ownParts "infiniband" ++ [.optional "sriov", .optional "ethtool"] } [
    hardware "mac-address" .infiniband "InfiniBand hardware address.",
    mtu "mtu" "MTU; 'auto' keeps the device default.",
    { choice "transport-mode" ["datagram", "connected"] "IP-over-InfiniBand transport mode." with
      prompt := some "Transport mode" },
    special "p-key" .partitionKey "Partition key; 'default' uses the parent interface.",
    checked "parent" .interfaceName "Parent interface of a partition."]

def wpan : Setting :=
  Setting.binding { name := "wpan", title := "IEEE 802.15.4 (WPAN)", parts := ownParts "wpan" } [
    hardware "mac-address" .wpan "IEEE 802.15.4 extended address.",
    { integer "short-address" shortIdentifier "Short address." with usual := some (.int 65535) },
    { integer "pan-id" shortIdentifier "Personal area network identifier." with
      usual := some (.int 65535) },
    { integer "page" { width := .int32, least := some (-1), greatest := some 31 }
        "Channel page; -1 keeps the device default." with
      usual := some (.int (-1)) },
    { integer "channel" { width := .int32, least := some (-1), greatest := some 26 }
        "Channel; -1 keeps the device default." with
      usual := some (.int (-1)) }]

def lowpan : Setting :=
  Setting.binding { name := "6lowpan", title := "6LOWPAN settings", parts := ownParts "6lowpan" } [
    { checked "parent" .interfaceName "Parent WPAN interface." with
      option := some "dev"
      prompt := some "IEEE 802.15.4 (WPAN) parent device or connection UUID" }]

end NetProfile.Settings
