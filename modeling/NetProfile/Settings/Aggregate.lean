import NetProfile.Property.Kinds

/-!
Bonds, and teams with their ports.
-/

namespace NetProfile.Settings

open Property

def bondOptionsMessage : String :=
  "Enter a list of bonding options formatted as:\n" ++
  "  option = <value>, option = <value>,... \n" ++
  "Valid options are: mode, miimon, downdelay, updelay, arp_interval, arp_ip_target, ...\n" ++
  "'mode' can be provided as a name or a number:\n" ++
  "balance-rr    = 0\n" ++
  "active-backup = 1\n" ++
  "balance-xor   = 2\n" ++
  "broadcast     = 3\n" ++
  "802.3ad       = 4\n" ++
  "balance-tlb   = 5\n" ++
  "balance-alb   = 6\n" ++
  "\n" ++
  "Example: mode=2,miimon=120"

def teamConfigMessage : String :=
  "Enter a JSON object describing the team configuration.\n" ++
  "\n" ++
  "Example: \x7b\"device\": \"team0\", \"runner\": \x7b\"name\": \"roundrobin\"\x7d, " ++
  "\"ports\": \x7b\"eth1\": \x7b\x7d, \"eth2\": \x7b\x7d\x7d \x7d"

def hashFields : List String :=
  ["eth", "vlan", "ipv4", "ipv6", "ip", "l3", "tcp", "udp", "sctp", "l4"]

def teamRunners : List String :=
  ["broadcast", "roundrobin", "random", "activebackup", "loadbalance", "lacp"]

def linkWatchersMessage : String :=
  "Enter a list of link watchers formatted as dictionaries where the keys are the watcher " ++
  "properties.\n" ++
  "Example: name=ethtool delay-up=100, name=arp_ping target-host=10.0.0.1"

def teamQueue : IntegerRule where
  width := .int32
  least := some (-1)
  greatest := some 2147483647
  aliases := [("unset", -1)]

def bond : Setting :=
  Setting.binding { name := "bond", title := "Bond device", parts := linkParts "bond" } [
    { options "options" bondOptions "Bonding driver options." with
      message := some bondOptionsMessage }]

def team : Setting :=
  Setting.binding { name := "team", title := "Team device", parts := linkParts "team" } [
    { checked "config" .teamConfig "JSON configuration of the team device." with
      option := some "config", message := some teamConfigMessage },
    unsigned "notify-peers-count" 0 255 "Peer notifications after a port change.",
    unsigned "notify-peers-interval" 0 4294967295,
    unsigned "mcast-rejoin-count" 0 255,
    unsigned "mcast-rejoin-interval" 0 4294967295,
    { choice "runner" teamRunners "Runner selecting the transmit port." with
      usual := some (.ofText "roundrobin") },
    choice "runner-hwaddr-policy" ["same_all", "by_active", "only_active"],
    list "runner-tx-hash"
      { form := .text none, separators := plainSeparators, words := hashFields
        policy := .replace }
      "Fields hashed to select the transmit port.",
    free "runner-tx-balancer",
    unsigned "runner-tx-balancer-interval" 0 4294967295,
    bool "runner-active",
    bool "runner-fast-rate",
    unsigned "runner-sys-prio" 0 65535,
    unsigned "runner-min-ports" 0 255,
    choice "runner-agg-select-policy"
      ["lacp_prio", "lacp_prio_stable", "bandwidth", "count", "port_config"],
    { list "link-watchers" { form := .watcher } "Link watchers of the team." with
      message := some linkWatchersMessage }]

def teamPort : Setting :=
  Setting.binding { name := "team-port", title := "Team port" } [
    { checked "config" .teamConfig "JSON configuration of the team port." with
      message := some teamConfigMessage },
    { integer "queue-id" teamQueue "Queue of the port; -1 leaves it unset." with
      usual := some (.int (-1)) },
    int32 "prio" "Port priority.",
    bool "sticky" "Whether the port stays active once selected.",
    { unsigned "lacp-prio" 0 65535 "LACP port priority." with usual := some (.int 255) },
    unsigned "lacp-key" 0 65535 "LACP port key.",
    { list "link-watchers" { form := .watcher } "Link watchers of the port." with
      message := some linkWatchersMessage }]

end NetProfile.Settings
