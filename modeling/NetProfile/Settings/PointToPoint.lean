import NetProfile.Property.Kinds

/-!
Links between two points: PPP, PPPoE, ADSL and serial lines.
-/

namespace NetProfile.Settings

open Property

def parityLetters : List String :=
  ["E", "O", "n"]

def parityMessage : String :=
  "Enter the parity: 'E' (even), 'O' (odd) or 'n' (none)."

def ppp : Setting :=
  Setting.binding { name := "ppp", title := "PPP settings" } [
    { bool "noauth" "Whether the peer is not required to authenticate." with
      usual := some (.bool true) },
    bool "refuse-eap",
    bool "refuse-pap",
    bool "refuse-chap",
    bool "refuse-mschap",
    bool "refuse-mschapv2",
    bool "nobsdcomp",
    bool "nodeflate",
    bool "no-vj-comp",
    bool "require-mppe",
    bool "require-mppe-128",
    bool "mppe-stateful",
    bool "crtscts" "Whether hardware flow control is used.",
    uint32 "baud",
    uint32 "mru" "Maximum receive unit; 0 keeps the default.",
    mtu "mtu",
    uint32 "lcp-echo-failure"
      "Unanswered LCP echo requests before the peer is considered gone.",
    uint32 "lcp-echo-interval" "Seconds between LCP echo requests."]

def pppoe : Setting :=
  Setting.binding
    { name := "pppoe", title := "PPPoE"
      parts := ownParts "pppoe"
        ++ [.mandatory "802-3-ethernet", .optional "ppp", .optional "802-1x",
          .optional "ethtool"] } [
    checked "parent" .interfaceName "Interface the session runs over.",
    { free "service" "Service name of the access concentrator." with option := some "service" },
    { checked "username" .nonEmpty with option := some "username", prompt := some "Username" },
    { secret "password" with option := some "password" },
    secrecy "password-flags"]

def adsl : Setting :=
  Setting.binding { name := "adsl", title := "ADSL connection", parts := ownParts "adsl" } [
    { checked "username" .nonEmpty with option := some "username", prompt := some "Username" },
    { secret "password" with option := some "password" },
    secrecy "password-flags",
    { choice "protocol" ["pppoa", "pppoe", "ipoatm"] with
      option := some "protocol", prompt := some "Protocol" },
    { choice "encapsulation" ["vcmux", "llc"] "Encapsulation of the ATM link." with
      option := some "encapsulation" },
    uint32 "vpi" "Virtual path identifier.",
    uint32 "vci" "Virtual channel identifier."]

def serial : Setting :=
  Setting.binding { name := "serial", title := "Serial link" } [
    uint32 "baud" "Speed of the serial link.",
    { unsigned "bits" 5 8 "Data bits." with usual := some (.int 8) },
    { choice "parity" parityLetters "Parity of the serial link." with
      message := some parityMessage, usual := some (.ofText "n") },
    { unsigned "stopbits" 1 2 "Stop bits." with usual := some (.int 1) },
    uint32 "send-delay" "Delay between bytes in microseconds."]

end NetProfile.Settings
