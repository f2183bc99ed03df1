import NetProfile.Error
import NetProfile.Numeral
import NetProfile.Scalar.Integer

/-!
Link watchers of teams, written as `key=value` tokens. The keys of all kinds are read alike; which
of them count is decided by the name.
-/

namespace NetProfile

structure Probe where
  initWait : UInt32 := 0
  interval : UInt32 := 0
  missedMax : UInt32 := 3
  targetHost : String
deriving DecidableEq, Repr

structure ArpFlags where
  validateActive : Bool := false
  validateInactive : Bool := false
  sendAlways : Bool := false
deriving DecidableEq, Repr

inductive LinkWatcher where
  | ethtool (delayUp delayDown : UInt32)
  | nsnaPing (probe : Probe)
  | arpPing (probe : Probe) (vlan : Int32) (sourceHost : String) (flags : ArpFlags)
deriving DecidableEq, Repr

namespace LinkWatcher

def name : LinkWatcher → String
  | ethtool .. => "ethtool"
  | nsnaPing _ => "nsna_ping"
  | arpPing .. => "arp_ping"

/-- What the tokens of a text have said so far. -/
structure Draft where
  name : Option String := none
  /-- The delay before a link counts as up, or before the first probe. -/
  first : UInt32 := 0
  /-- The delay before a link counts as down, or between probes. -/
  second : UInt32 := 0
  missedMax : UInt32 := 3
  vlan : Int32 := -1
  targetHost : Option String := none
  sourceHost : Option String := none
  flags : ArpFlags := {}
deriving DecidableEq, Repr

def badToken (token : String) (fault : WatcherFault) : Error :=
  .invalid token (.watcherToken token fault)

def readCount (token value : String) : Except Error UInt32 :=
  match Numeral.natural? (.fixed 10) 2147483647 value with
  | some n => .ok (UInt32.ofNat n)
  | none => .error (badToken token .notCount)

def readVlan (token value : String) : Except Error Int32 :=
  match (readWithin (.fixed 10) (-1) 4094 value).toOption with
  | some n => .ok n.toInt32
  | none => .error (badToken token .notVlan)

/-- Takes one key. A flag that was once true stays true. -/
def Draft.setKey (draft : Draft) (token key value : String) : Except Error Draft :=
  match key with
  | "name" => .ok { draft with name := some value }
  | "delay-up" | "init-wait" => do return { draft with first := ← readCount token value }
  | "delay-down" | "interval" => do return { draft with second := ← readCount token value }
  | "missed-max" => do return { draft with missedMax := ← readCount token value }
  | "vlanid" => do return { draft with vlan := ← readVlan token value }
  | "target-host" => .ok { draft with targetHost := some value }
  | "source-host" => .ok { draft with sourceHost := some value }
  | "validate-active" =>
    .ok { draft with flags.validateActive := draft.flags.validateActive || value = "true" }
  | "validate-inactive" =>
    .ok { draft with flags.validateInactive := draft.flags.validateInactive || value = "true" }
  | "send-always" =>
    .ok { draft with flags.sendAlways := draft.flags.sendAlways || value = "true" }
  | _ => .error (badToken token .unknownKey)

def Draft.addToken (draft : Draft) (token : String) : Except Error Draft :=
  match Text.pieces (· == '=') token with
  | [_] => .error (badToken token .noValue)
  | [key, value] =>
    if key = "" then .error (badToken token .notPair) else draft.setKey token key value
  | _ => .error (badToken token .notPair)

def needHost (host : Option String) (key kind : String) : Except Error String :=
  match host with
  | some host => if host = "" then .error (.incomplete key (kind ++ " link watcher")) else .ok host
  | none => .error (.incomplete key (kind ++ " link watcher"))

def Draft.probe (draft : Draft) (targetHost : String) : Probe :=
  { initWait := draft.first, interval := draft.second, missedMax := draft.missedMax, targetHost }

def Draft.finish (draft : Draft) : Except Error LinkWatcher :=
  match draft.name with
  | none => .error (.incomplete "name" "link watcher")
  | some "ethtool" => .ok (ethtool draft.first draft.second)
  | some "nsna_ping" => do
    return nsnaPing (draft.probe (← needHost draft.targetHost "target-host" "nsna_ping"))
  | some "arp_ping" => do
    let target ← needHost draft.targetHost "target-host" "arp_ping"
    let source ← needHost draft.sourceHost "source-host" "arp_ping"
    return arpPing (draft.probe target) draft.vlan source draft.flags
  | some other => .error (.invalid other (.unknownWatcher other))

def parse (text : String) : Except Error LinkWatcher :=
  match Text.tokens text with
  | [] => .error (.invalid text (.notValid text))
  | tokens => do (← tokens.foldlM Draft.addToken {}).finish

/-- A word that is written only when the number differs from its usual value. -/
def countWord (key : String) (usual value : UInt32) : List String :=
  if value = usual then [] else [key ++ "=" ++ Numeral.decimalDigits value.toNat]

def flagWord (key : String) (value : Bool) : List String := if value then [key ++ "=true"] else []

def Probe.words (probe : Probe) : List String :=
  countWord "init-wait" 0 probe.initWait ++ countWord "interval" 0 probe.interval
    ++ countWord "missed-max" 3 probe.missedMax ++ ["target-host=" ++ probe.targetHost]

def words (watcher : LinkWatcher) : List String :=
  ("name=" ++ watcher.name) ::
    match watcher with
    | ethtool delayUp delayDown =>
      countWord "delay-up" 0 delayUp ++ countWord "delay-down" 0 delayDown
    | nsnaPing probe => Probe.words probe
    | arpPing probe vlan sourceHost flags =>
      Probe.words probe
        ++ (if vlan = -1 then [] else ["vlanid=" ++ Numeral.decimal vlan.toInt])
        ++ ["source-host=" ++ sourceHost] ++ flagWord "validate-active" flags.validateActive
        ++ flagWord "validate-inactive" flags.validateInactive
        ++ flagWord "send-always" flags.sendAlways

def toText (watcher : LinkWatcher) : String := String.intercalate " " watcher.words

def formatList (watchers : List LinkWatcher) : String :=
  String.intercalate ", " (watchers.map toText)

end LinkWatcher

end NetProfile
