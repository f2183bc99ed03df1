import NetProfile.Property.Kinds

/-!
Wireless networks and their security.
-/

namespace NetProfile.Settings

open Property

def macRandomization : Enumeration where
  isFlags := false
  names := [("default", 0), ("never", 1), ("always", 2)]
  least := some 0
  greatest := some 2
  pretty := .textOnly
  parsable := .textOnly

def powersave : Enumeration where
  isFlags := false
  names := [("default", 0), ("ignore", 1), ("disable", 2), ("enable", 3)]
  least := some 0
  greatest := some 3

def wakeOnWlan : Enumeration where
  isFlags := true
  names := [("default", 1), ("any", 2), ("disconnect", 4), ("magic", 8), ("gtk-rekey-failure", 16),
    ("eap-identity-request", 32), ("4way-handshake", 64), ("rfkill-release", 128), ("tcp", 256),
    ("ignore", 32768)]
  least := some 0
  greatest := some 33279

def pmf : Enumeration where
  isFlags := false
  names := [("default", 0), ("disable", 1), ("optional", 2), ("required", 3)]
  least := some 0
  greatest := some 3

def fils : Enumeration where
  isFlags := false
  names := [("default", 0), ("disable", 1), ("optional", 2), ("required", 3)]
  least := some 0
  greatest := some 3

def wpsMethod : Enumeration where
  isFlags := true
  names := [("default", 0), ("disabled", 1), ("auto", 2), ("pbc", 4), ("pin", 8)]
  least := some 0
  greatest := some 15

def wepKeyType : Enumeration where
  isFlags := false
  names := [("unknown", 0), ("key", 1), ("passphrase", 2)]
  least := some 0
  greatest := some 2

def wepKeyTypeMessage : String :=
  "Enter the type of WEP keys. The accepted values are: 0 or unknown, 1 or key, and 2 or " ++
  "passphrase."

def wifi : Setting :=
  Setting.binding
    { name := "802-11-wireless", shortName := some "wifi", title := "Wi-Fi connection"
      parts := ownParts "802-11-wireless"
        ++ [.optional "802-11-wireless-security", .optional "802-1x", .optional "ethtool"] } [
    { special "ssid" .networkName "SSID of the network." with
      option := some "ssid", prompt := some "SSID" },
    { choice "mode" ["infrastructure", "adhoc", "ap", "mesh"] "Wi-Fi network mode." with
      option := some "mode" },
    choice "band" ["a", "bg"] "802.11 frequency band.",
    special "channel" .wifiChannel "Wireless channel; requires 'band'.",
    checked "bssid" .ethernetAddress "BSSID to lock the connection to.",
    uint32 "rate" "Fixed transmit rate in kbit/s.",
    uint32 "tx-power" "Transmit power in mW.",
    { hardware "mac-address" .ethernet "Permanent MAC address of the device." with
      option := some "mac" },
    hardware "cloned-mac-address" .cloned "MAC address set on the device at activation.",
    free "generate-mac-address-mask" "Mask applied to generated MAC addresses.",
    checkedTexts "mac-address-blacklist" .ethernetAddress
      "MAC addresses of devices this connection must not apply to.",
    enumeration "mac-address-randomization" macRandomization
      "Whether the MAC is randomized while scanning.",
    mtu "mtu" "MTU; 'auto' keeps the device default.",
    { checkedTexts "seen-bssids" .ethernetAddress "BSSIDs seen while connected." with
      isReadOnly := true },
    bool "hidden" "Whether the network does not broadcast its SSID.",
    enumeration "powersave" powersave "Wi-Fi power saving behaviour.",
    { enumeration "wake-on-wlan" wakeOnWlan "Wake-on-WLAN options." with
      usual := some (.int 1) }]

def wifiSecurity : Setting :=
  Setting.binding
    { name := "802-11-wireless-security", shortName := some "wifi-sec"
      title := "Wi-Fi security settings" } [
    { choice "key-mgmt" ["none", "ieee8021x", "wpa-none", "wpa-psk", "wpa-eap", "sae"]
        "Key management used by the connection." with
      prompt := some "Key management" },
    unsigned "wep-tx-keyidx" 0 3 "Index of the WEP key used for transmission.",
    choice "auth-alg" ["open", "shared", "leap"] "802.11 authentication algorithm for WEP.",
    choices "proto" ["wpa", "rsn"] "Allowed WPA protocol versions.",
    choices "pairwise" ["tkip", "ccmp"] "Allowed pairwise ciphers.",
    choices "group" ["wep40", "wep104", "tkip", "ccmp"] "Allowed group ciphers.",
    enumeration "pmf" pmf "Protected management frames policy.",
    free "leap-username" "LEAP user name.",
    { special "wep-key0" (.wepKey 0) "WEP key 0." with isSecret := true },
    { special "wep-key1" (.wepKey 1) "WEP key 1." with isSecret := true },
    { special "wep-key2" (.wepKey 2) "WEP key 2." with isSecret := true },
    { special "wep-key3" (.wepKey 3) "WEP key 3." with isSecret := true },
    secrecy "wep-key-flags",
    { scalar "wep-key-type" (.wepKeyType wepKeyType) "How WEP keys are interpreted." with
      message := some wepKeyTypeMessage },
    secret "psk" "Pre-shared key for WPA networks.",
    secrecy "psk-flags",
    secret "leap-password" "LEAP password.",
    secrecy "leap-password-flags",
    enumeration "wps-method" wpsMethod "WPS methods to try.",
    enumeration "fils" fils "FILS policy."]

def olpcMesh : Setting :=
  Setting.binding
    { name := "802-11-olpc-mesh", shortName := some "olpc-mesh", title := "OLPC Mesh connection"
      parts := ownParts "802-11-olpc-mesh" } [
    { special "ssid" .networkName "SSID of the mesh network." with
      option := some "ssid", prompt := some "SSID" },
    unsigned "channel" 1 13 "Mesh channel.",
    checked "dhcp-anycast-address" .ethernetAddress "Anycast DHCP MAC address."]

def wifiP2p : Setting :=
  Setting.binding
    { name := "wifi-p2p", title := "Wi-Fi P2P connection", parts := ownParts "wifi-p2p" } [
    { checked "peer" .ethernetAddress "MAC address of the peer." with
      option := some "peer", prompt := some "Peer" },
    enumeration "wps-method" wpsMethod "WPS methods to try.",
    octets "wfd-ies" "Wi-Fi Display information elements."]

def wimax : Setting :=
  Setting.binding { name := "wimax", title := "WiMAX connection", parts := ownParts "wimax" } [
    { hardware "mac-address" .ethernet "MAC address of the device." with option := some "mac" },
    { free "network-name" "Network service provider name." with
      option := some "nsp", prompt := some "WiMAX NSP name" }]

end NetProfile.Settings
