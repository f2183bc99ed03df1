import NetProfile.Property.Kinds

/-!
Mobile networks and Bluetooth.
-/

namespace NetProfile.Settings

open Property

def gsm : Setting :=
  Setting.binding
    { name := "gsm", title := "GSM mobile broadband"
      parts := ownParts "gsm" ++ [.optional "serial", .optional "ppp"] } [
    free "number" "Number dialed to establish the PPP session.",
    { free "username" "User name for the network." with option := some "user" },
    { secret "password" "Password for the network." with option := some "password" },
    secrecy "password-flags",
    { free "apn" "Access point name of the GPRS/UMTS network." with
      option := some "apn", prompt := some "APN" },
    free "network-id" "Operator MCC/MNC to register with.",
    secret "pin" "SIM PIN.",
    secrecy "pin-flags",
    bool "home-only" "Whether roaming is forbidden.",
    free "device-id" "Modem device identifier.",
    free "sim-id" "SIM card identifier.",
    checked "sim-operator-id" .simOperator "MCC/MNC of the SIM operator.",
    mtu "mtu" "MTU; 'auto' keeps the device default."]

def cdma : Setting :=
  Setting.binding
    { name := "cdma", title := "CDMA mobile broadband"
      parts := ownParts "cdma" ++ [.optional "serial", .optional "ppp"] } [
    free "number" "Number dialed to establish the PPP session.",
    { free "username" with option := some "user" },
    { secret "password" with option := some "password" },
    secrecy "password-flags",
    mtu "mtu"]

def bluetooth : Setting :=
  Setting.binding
    { name := "bluetooth", title := "Bluetooth connection"
      parts := ownParts "bluetooth" ++ [.optional "bridge", .optional "gsm", .optional "cdma"] } [
    { checked "bdaddr" .ethernetAddress "Address of the remote device." with
      option := some "addr", prompt := some "Bluetooth device address" },
    { choice "type" ["dun", "panu", "nap"] "Bluetooth profile used by the connection." with
      option := some "bt-type", prompt := some "Bluetooth type" }]

end NetProfile.Settings
