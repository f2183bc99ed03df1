import NetProfile.Property.Kinds

/-!
Data center bridging, virtual functions and traffic control.
-/

namespace NetProfile.Settings

open Property

def dcbPriority : IntegerRule where
  width := .int32
  least := some (-1)
  greatest := some 7
  aliases := [("unset", -1)]

def autoprobe : Enumeration where
  isFlags := false
  names := [("default", -1), ("false", 0), ("true", 1)]
  least := some (-1)
  greatest := some 1

def functionsMessage : String :=
  "Enter a list of SR-IOV virtual functions separated by commas.\n" ++
  "Each VF is an index followed by attributes:\n" ++
  "  <index> [mac=<MAC>] [spoof-check=true|false] [trust=true|false] [min-tx-rate=<rate>] " ++
  "[max-tx-rate=<rate>] [vlans=<id>[.<qos>[.q|ad]];...]\n" ++
  "\n" ++
  "Example: 2 mac=00:11:22:33:44:55 trust=true vlans=100.2.ad"

def qdiscsMessage : String :=
  "Enter a list of queueing disciplines separated by commas.\n" ++
  "Each one is: root|parent <handle> [handle <handle>] <kind>\n" ++
  "\n" ++
  "Example: root handle 1234: fq_codel"

def dcb : Setting :=
  Setting.binding { name := "dcb", title := "Data Center Bridging" } [
    features "app-fcoe-flags" "FCoE application flags.",
    { integer "app-fcoe-priority" dcbPriority "Priority of FCoE frames." with
      usual := some (.int (-1)) },
    { choice "app-fcoe-mode" ["fabric", "vn2vn"] "FCoE controller mode." with
      usual := some (.ofText "fabric") },
    features "app-iscsi-flags",
    { integer "app-iscsi-priority" dcbPriority with usual := some (.int (-1)) },
    features "app-fip-flags",
    { integer "app-fip-priority" dcbPriority with usual := some (.int (-1)) },
    features "priority-flow-control-flags",
    slots "priority-flow-control" { largest := 1 } "priority-flow-control-flags"
      "Whether flow control is enabled for each priority.",
    features "priority-group-flags",
    slots "priority-group-id" { largest := 7, other := some 15 } "priority-group-flags"
      "Priority group of each user priority; 15 means none.",
    slots "priority-group-bandwidth" { largest := 100, percent := true } "priority-group-flags"
      "Bandwidth percentage of each priority group; must total 100.",
    slots "priority-bandwidth" { largest := 100 } "priority-group-flags"
      "Bandwidth percentage of each user priority within its group.",
    slots "priority-strict-bandwidth" { largest := 1 } "priority-group-flags"
      "Whether each user priority may use strict bandwidth.",
    slots "priority-traffic-class" { largest := 7 } "priority-group-flags"
      "Traffic class of each user priority."]

def sriov : Setting :=
  Setting.binding { name := "sriov", title := "SR-IOV settings" } [
    uint32 "total-vfs" "Number of virtual functions to create.",
    { list "vfs" { form := .function } "Configuration of individual virtual functions." with
      message := some functionsMessage },
    { enumeration "autoprobe-drivers" autoprobe "Whether drivers are probed for new VFs." with
      usual := some (.int (-1)) }]

def tc : Setting :=
  Setting.binding { name := "tc", title := "Traffic controls" } [
    { list "qdiscs" { form := .qdisc } "Queueing disciplines." with
      message := some qdiscsMessage }]

end NetProfile.Settings
