import NetProfile.Property.Kinds

/-!
Virtual private networks.
-/

namespace NetProfile.Settings

open Property

def vpnItemsMessage : String :=
  "Enter a list of key/value pairs formatted as:\n  key = <value>, key = <value>, ..."

def vpn : Setting :=
  Setting.binding { name := "vpn", title := "VPN connection", parts := ownParts "vpn" } [
    { checked "service-type" .vpnService "D-Bus service name of the VPN plugin." with
      option := some "vpn-type", prompt := some "VPN type" },
    { free "user-name" "User the connection belongs to." with option := some "user" },
    { options "data" vpnItems "Plugin-specific configuration." with
      message := some vpnItemsMessage },
    { options "secrets" vpnItems "Plugin-specific secrets." with
      message := some vpnItemsMessage, isSecret := true },
    bool "persistent" "Whether the VPN reconnects after link loss.",
    uint32 "timeout" "Plugin start timeout in seconds; 0 is default."]

def wireguard : Setting :=
  Setting.binding
    { name := "wireguard", title := "WireGuard VPN settings", parts := ownParts "wireguard" } [
    secret "private-key" "Base64 private key of the interface.",
    secrecy "private-key-flags",
    unsigned "listen-port" 0 65535 "UDP listen port; 0 picks one.",
    integer "fwmark" { width := .uint32, base := .automatic }
      "Firewall mark of outgoing packets.",
    { bool "peer-routes" "Whether routes for peer allowed-ips are added." with
      usual := some (.bool true) },
    mtu "mtu"]

end NetProfile.Settings
