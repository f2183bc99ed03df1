import NetProfile.Property.Kinds

/-!
Authentication at a port, by IEEE 802.1X.
-/

namespace NetProfile.Settings

open Property

def fastProvisioning : Enumeration where
  isFlags := false
  names := [("disabled", 0), ("anonymous", 1), ("authenticated", 2), ("both", 3)]
  least := some 0
  greatest := some 3

def eapMethods : List String :=
  ["leap", "md5", "tls", "peap", "ttls", "sim", "fast", "pwd"]

def innerMethods : List String :=
  ["pap", "chap", "mschap", "mschapv2", "gtc", "otp", "md5", "tls"]

def innerEapMethods : List String :=
  ["md5", "mschapv2", "otp", "gtc", "tls"]

def certificateMessage : String :=
  "Enter file path to CA certificate (optionally prefixed with file://).\n" ++
  "  [file://]<file path>\n" ++
  "Note that nmcli does not support specifying certificates as raw blob data.\n" ++
  "Example: /home/cimrman/cacert.crt"

def portAuthentication : Setting :=
  Setting.binding { name := "802-1x", title := "802-1x settings" } [
    choices "eap" eapMethods "Allowed EAP methods.",
    free "identity" "Identity string for EAP authentication.",
    free "anonymous-identity" "Anonymous identity for tunneled methods.",
    free "pac-file" "PAC file for EAP-FAST.",
    { free "ca-cert" "CA certificate path." with message := some certificateMessage },
    secret "ca-cert-password",
    secrecy "ca-cert-password-flags",
    free "ca-path" "Directory of CA certificates.",
    free "subject-match" "Required substring of the server certificate subject.",
    texts "altsubject-matches" "Alternative subject names the server certificate must carry.",
    free "domain-suffix-match" "Required server domain suffix.",
    free "client-cert" "Client certificate path.",
    secret "client-cert-password",
    secrecy "client-cert-password-flags",
    choice "phase1-peapver" ["0", "1"] "Forced PEAP version.",
    choice "phase1-peaplabel" ["0", "1"] "PEAP label variant.",
    enumeration "phase1-fast-provisioning" fastProvisioning "EAP-FAST provisioning mode.",
    choice "phase2-auth" innerMethods "Inner non-EAP authentication.",
    choice "phase2-autheap" innerEapMethods "Inner EAP authentication.",
    free "phase2-ca-cert" "Inner CA certificate path.",
    free "phase2-ca-path" "Inner CA certificate directory.",
    free "phase2-subject-match",
    texts "phase2-altsubject-matches",
    free "phase2-domain-suffix-match",
    free "phase2-client-cert" "Inner client certificate path.",
    secret "password" "Password for EAP authentication.",
    secrecy "password-flags",
    { octets "password-raw" with isSecret := true },
    secrecy "password-raw-flags",
    free "private-key" "Private key path.",
    secret "private-key-password",
    secrecy "private-key-password-flags",
    free "phase2-private-key" "Inner private key path.",
    secret "phase2-private-key-password",
    secrecy "phase2-private-key-password-flags",
    secret "pin" "PIN for EAP-SIM.",
    secrecy "pin-flags",
    bool "system-ca-certs" "Whether the system CA store is used.",
    int32 "auth-timeout" "Authentication timeout in seconds; 0 is default."]

end NetProfile.Settings
