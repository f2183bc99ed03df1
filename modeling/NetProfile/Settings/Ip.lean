import NetProfile.Property.Kinds

/-!
The settings of the two versions of the Internet Protocol. Most of their properties are the same.
-/

namespace NetProfile.Settings

open Property

def ip6Privacy : Enumeration where
  isFlags := false
  names := [("unknown", -1), ("disabled", 0), ("enabled-prefer-public-addr", 1),
    ("enabled-prefer-temp-addr", 2)]
  least := some (-1)
  greatest := some 2

def addrGenMode : Enumeration where
  isFlags := false
  names := [("eui64", 0), ("stable-privacy", 1)]
  least := some 0
  greatest := some 1

def routeMetric : IntegerRule where
  width := .int64
  least := some (-1)
  greatest := some 4294967295

def ipv4DnsMessage : String :=
  "Enter a list of IPv4 addresses of DNS servers.\n\nExample: 8.8.8.8, 8.8.4.4"

def ipv4AddressesMessage : String :=
  "Enter a list of IPv4 addresses formatted as:\n" ++
  "  ip[/prefix], ip[/prefix],...\n" ++
  "Missing prefix is regarded as prefix of 32.\n" ++
  "\n" ++
  "Example: 192.168.1.5/24, 10.0.0.11/24"

def ipv4RoutesMessage : String :=
  "Enter a list of IPv4 routes formatted as:\n" ++
  "  ip[/prefix] [next-hop] [metric],...\n" ++
  "\n" ++
  "Missing prefix is regarded as a prefix of 32.\n" ++
  "Missing next-hop is regarded as 0.0.0.0.\n" ++
  "Missing metric means default (NM/kernel will set a default value).\n" ++
  "\n" ++
  "Examples: 192.168.2.0/24 192.168.2.1 3, 10.1.0.0/16 10.0.0.254\n" ++
  "          10.1.2.0/24"

def ipv6DnsMessage : String :=
  "Enter a list of IPv6 addresses of DNS servers. If the IPv6 configuration method is 'auto' " ++
  "these DNS servers are appended to those (if any) returned by automatic configuration.\n" ++
  "\n" ++
  "Example: 2607:f0d0:1002:51::4, 2607:f0d0:1002:51::1"

def ipv6AddressesMessage : String :=
  "Enter a list of IPv6 addresses formatted as:\n" ++
  "  ip[/prefix], ip[/prefix],...\n" ++
  "Missing prefix is regarded as prefix of 128.\n" ++
  "\n" ++
  "Example: 2607:f0d0:1002:51::4/64, 1050:0:0:0:5:600:300c:326b"

def ipv6RoutesMessage : String :=
  "Enter a list of IPv6 routes formatted as:\n" ++
  "  ip[/prefix] [next-hop] [metric],...\n" ++
  "\n" ++
  "Missing prefix is regarded as a prefix of 128.\n" ++
  "Missing next-hop is regarded as \"::\".\n" ++
  "Missing metric means default (NM/kernel will set a default value).\n" ++
  "\n" ++
  "Examples: 2001:db8:beef:2::/64 2001:db8:beef::2, 2001:db8:beef:3::/64 2001:db8:beef::3 2\n" ++
  "          abbe::/64 55"

/-- Help for the servers, addresses and routes of a family. -/
def familyMessages : Family → String × String × String
  | .v4 => (ipv4DnsMessage, ipv4AddressesMessage, ipv4RoutesMessage)
  | .v6 => (ipv6DnsMessage, ipv6AddressesMessage, ipv6RoutesMessage)

/-- The options that give addresses and gateway of a family. -/
def familyOptions : Family → String × String
  | .v4 => ("ip4", "gw4")
  | .v6 => ("ip6", "gw6")

def commonProperties (family : Family) : List Property :=
  let (dnsMessage, addressesMessage, routesMessage) := familyMessages family
  let (addressesOption, gatewayOption) := familyOptions family
  [scalar "method" (.text (some (.method family)) (TextRule.methods family))
      "IP configuration method.",
    { list "dns" { form := .server family, separators := plainSeparators } "DNS servers." with
      message := some dnsMessage },
    checkedTexts "dns-search" .searchDomain "DNS search domains.",
    special "dns-options" .dnsOptions "DNS resolver options.",
    int32 "dns-priority" "Priority of the DNS servers of this connection.",
    { list "addresses" { form := .subnet family } "Static addresses." with
      option := some addressesOption, message := some addressesMessage },
    { checked "gateway" (.gateway family) "Default gateway." with option := some gatewayOption },
    { list "routes" { form := .route family } "Static routes." with
      message := some routesMessage },
    { integer "route-metric" routeMetric
        "Metric of the default route and static routes without a metric." with
      usual := some (.int (-1)) },
    uint32 "route-table" "Routing table for routes without an explicit table.",
    bool "ignore-auto-routes" "Ignore automatically obtained routes.",
    bool "ignore-auto-dns" "Ignore automatically obtained DNS servers."]

def ipv4 : Setting :=
  Setting.binding { name := "ipv4", title := "IPv4 protocol" } (commonProperties .v4 ++ [
    free "dhcp-client-id" "DHCP client identifier.",
    integer "dhcp-timeout"
      { width := .int32, least := some 0, greatest := some 2147483647,
        aliases := [("default", 0), ("infinity", 2147483647)] }
      "Seconds to wait for a DHCP lease.",
    { bool "dhcp-send-hostname" "Whether the hostname is sent to the DHCP server." with
      usual := some (.bool true) },
    free "dhcp-hostname" "Hostname sent to the DHCP server.",
    free "dhcp-fqdn" "Fully qualified name sent to the DHCP server.",
    bool "never-default" "Never use this connection for the default route.",
    { bool "may-fail" "Whether activation may succeed without IPv4." with
      usual := some (.bool true) },
    { integer "dad-timeout"
        { width := .int32, least := some (-1), greatest := some 30000,
          aliases := [("default", -1)] }
        "Duplicate address detection timeout in milliseconds." with
      usual := some (.int (-1)) }])

def ipv6 : Setting :=
  Setting.binding { name := "ipv6", title := "IPv6 protocol" } (commonProperties .v6 ++ [
    bool "never-default" "Never use this connection for the default route.",
    { bool "may-fail" "Whether activation may succeed without IPv6." with
      usual := some (.bool true) },
    { enumeration "ip6-privacy" ip6Privacy "IPv6 privacy extensions." with
      usual := some (.int (-1)) },
    { enumeration "addr-gen-mode" addrGenMode
        "How the interface identifier of SLAAC addresses is generated." with
      usual := some (.int 1) },
    free "dhcp-duid" "DHCPv6 unique identifier.",
    { bool "dhcp-send-hostname" "Whether the hostname is sent to the DHCP server." with
      usual := some (.bool true) },
    free "dhcp-hostname" "Hostname sent to the DHCP server.",
    checked "token" (.gateway .v6) "Interface identifier token."])

end NetProfile.Settings
