import NetProfile.Property.Kinds

/-!
Wired Ethernet.
-/

namespace NetProfile.Settings

open Property

def wakeOnLan : Enumeration where
  isFlags := true
  names := [("default", 1), ("phy", 2), ("unicast", 4), ("multicast", 8), ("broadcast", 16),
    ("arp", 32), ("magic", 64), ("ignore", 32768)]
  least := some 0
  greatest := some 32895

def s390SubchannelsMessage : String :=
  "Enter a list of subchannels (comma or space separated).\n\nExample: 0.0.0e20 0.0.0e21 0.0.0e22"

def ethernet : Setting :=
  Setting.binding
    { name := "802-3-ethernet", shortName := some "ethernet", title := "Wired Ethernet"
      parts := ownParts "802-3-ethernet"
        ++ [.optional "802-1x", .optional "dcb", .optional "sriov", .optional "ethtool"] } [
    choice "port" ["tp", "aui", "bnc", "mii"] "Physical port of the device.",
    uint32 "speed" "Link speed in Mbit/s, with auto-negotiate off.",
    choice "duplex" ["half", "full"] "Duplex mode, with auto-negotiate off.",
    bool "auto-negotiate" "Whether link parameters are negotiated.",
    { hardware "mac-address" .ethernet "Permanent MAC address of the device." with
      option := some "mac" },
    hardware "cloned-mac-address" .cloned "MAC address set on the device at activation.",
    free "generate-mac-address-mask" "Mask applied to generated MAC addresses.",
    checkedTexts "mac-address-blacklist" .ethernetAddress
      "MAC addresses of devices this connection must not apply to.",
    { mtu "mtu" "MTU; 'auto' keeps the device default." with option := some "mtu" },
    { texts "s390-subchannels" "s390 subchannel identifiers." with
      message := some s390SubchannelsMessage },
    choice "s390-nettype" ["qeth", "lcs", "ctc"] "s390 network device type.",
    options "s390-options" s390Options "s390 driver options.",
    { enumeration "wake-on-lan" wakeOnLan "Wake-on-LAN options." with usual := some (.int 1) },
    hardware "wake-on-lan-password" .ethernet
      "Wake-on-LAN SecureOn password, given as a MAC address."]

end NetProfile.Settings
