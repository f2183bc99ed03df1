import Mathlib.Data.List.Induction
import Mathlib.Data.List.Nodup
import NetProfile.Proofs.Text.Words
import NetProfile.Record.LinkWatcher

/-!
The keys of link watchers. Every kind takes the keys of all kinds: a key of another kind is left out,
or it stands for the key of this kind that shares its place, and a flag is raised by the one word
`true`. So a text is understood as another one, which has no keys but those of its kind, and the two
are the same only if nothing is left out, renamed or settled.
-/

namespace NetProfile.LinkWatcher

inductive Key where
  | name
  | delayUp
  | delayDown
  | initWait
  | interval
  | missedMax
  | vlanId
  | targetHost
  | sourceHost
  | validateActive
  | validateInactive
  | sendAlways
deriving DecidableEq

namespace Key

def text : Key → String
  | name => "name"
  | delayUp => "delay-up"
  | delayDown => "delay-down"
  | initWait => "init-wait"
  | interval => "interval"
  | missedMax => "missed-max"
  | vlanId => "vlanid"
  | targetHost => "target-host"
  | sourceHost => "source-host"
  | validateActive => "validate-active"
  | validateInactive => "validate-inactive"
  | sendAlways => "send-always"

def all : List Key := [name, delayUp, delayDown, initWait, interval, missedMax, vlanId, targetHost,
  sourceHost, validateActive, validateInactive, sendAlways]

def flags : List Key := [validateActive, validateInactive, sendAlways]

end Key

inductive Kind where
  | ethtool
  | nsnaPing
  | arpPing
deriving DecidableEq

namespace Kind

def name : Kind → String
  | ethtool => "ethtool"
  | nsnaPing => "nsna_ping"
  | arpPing => "arp_ping"

def keys : Kind → List Key
  | ethtool => [.name, .delayUp, .delayDown]
  | nsnaPing => [.name, .initWait, .interval, .missedMax, .targetHost]
  | arpPing => [.name, .initWait, .interval, .missedMax, .targetHost, .vlanId, .sourceHost,
      .validateActive, .validateInactive, .sendAlways]

end Kind

def kind : LinkWatcher → Kind
  | ethtool .. => .ethtool
  | nsnaPing _ => .nsnaPing
  | arpPing .. => .arpPing

def count? (value : String) : Option UInt32 :=
  (Numeral.natural? (.fixed 10) 2147483647 value).map UInt32.ofNat

def vlan? (value : String) : Option Int32 :=
  (readWithin (.fixed 10) (-1) 4094 value).toOption.map Int64.toInt32

def Key.Takes (key : Key) (value : String) : Prop :=
  match key with
  | delayUp | delayDown | initWait | interval | missedMax => ∃ n, count? value = some n
  | vlanId => ∃ n, vlan? value = some n
  | _ => True

structure Spells (token : String) (entry : Key × String) : Prop where
  glued : token = entry.1.text ++ "=" ++ entry.2
  single : '=' ∉ entry.2.toList
  takes : entry.1.Takes entry.2

theorem readCount_eq_ok_iff {token value : String} {n : UInt32} :
    readCount token value = .ok n ↔ count? value = some n := by
  unfold readCount count?
  cases Numeral.natural? (.fixed 10) 2147483647 value <;> simp

theorem readVlan_eq_ok_iff {token value : String} {n : Int32} :
    readVlan token value = .ok n ↔ vlan? value = some n := by
  unfold readVlan vlan?
  cases (readWithin (.fixed 10) (-1) 4094 value).toOption <;> simp

/-- The key of a kind under which the value of a key is stored, if it is. -/
def Kind.hears (kind : Kind) (key : Key) : Option Key :=
  match kind, key with
  | .ethtool, .initWait => some .delayUp
  | .ethtool, .interval => some .delayDown
  | .nsnaPing, .delayUp | .arpPing, .delayUp => some .initWait
  | .nsnaPing, .delayDown | .arpPing, .delayDown => some .interval
  | kind, key => if key ∈ kind.keys then some key else none

def Key.settle (key : Key) (value : String) : String :=
  if key ∈ flags ∧ value ≠ "true" then "false" else value

def Kind.heard (kind : Kind) (entry : Key × String) : Option (Key × String) :=
  (kind.hears entry.1).map fun key => (key, key.settle entry.2)

structure Kind.Owns (kind : Kind) (entry : Key × String) : Prop where
  own : entry.1 ∈ kind.keys
  settled : entry.1 ∈ Key.flags → entry.2 = "true" ∨ entry.2 = "false"

def lastOf (entries : List (Key × String)) (key : Key) : Option String :=
  ((entries.filter (·.1 = key)).getLast?).map (·.2)

def lastCount (entries : List (Key × String)) (key : Key) (usual : UInt32) : UInt32 :=
  ((lastOf entries key).bind count?).getD usual

structure Probe.StatedBy (probe : Probe) (entries : List (Key × String)) : Prop where
  initWait : probe.initWait = lastCount entries .initWait 0
  interval : probe.interval = lastCount entries .interval 0
  missedMax : probe.missedMax = lastCount entries .missedMax 3
  targetHost : lastOf entries .targetHost = some probe.targetHost
  named : probe.targetHost ≠ ""

/-- A flag is raised by any of its values, and not by the last one. -/
structure ArpFlags.StatedBy (flags : ArpFlags) (entries : List (Key × String)) : Prop where
  validateActive : flags.validateActive = true ↔ (.validateActive, "true") ∈ entries
  validateInactive : flags.validateInactive = true ↔ (.validateInactive, "true") ∈ entries
  sendAlways : flags.sendAlways = true ↔ (.sendAlways, "true") ∈ entries

/-- The watcher has the values that the entries give to the keys of its kind, and the usual ones where
they give none. -/
def StatedBy (watcher : LinkWatcher) (entries : List (Key × String)) : Prop :=
  lastOf entries .name = some watcher.kind.name ∧
    match watcher with
    | ethtool delayUp delayDown =>
      delayUp = lastCount entries .delayUp 0 ∧ delayDown = lastCount entries .delayDown 0
    | nsnaPing probe => Probe.StatedBy probe entries
    | arpPing probe vlan sourceHost flags =>
      Probe.StatedBy probe entries ∧ vlan = ((lastOf entries .vlanId).bind vlan?).getD (-1) ∧
        (lastOf entries .sourceHost = some sourceHost ∧ sourceHost ≠ "") ∧
        ArpFlags.StatedBy flags entries

def Draft.take (draft : Draft) (entry : Key × String) : Draft :=
  let value := entry.2
  match entry.1 with
  | .name => { draft with name := some value }
  | .delayUp | .initWait => { draft with first := (count? value).getD 0 }
  | .delayDown | .interval => { draft with second := (count? value).getD 0 }
  | .missedMax => { draft with missedMax := (count? value).getD 3 }
  | .vlanId => { draft with vlan := (vlan? value).getD (-1) }
  | .targetHost => { draft with targetHost := some value }
  | .sourceHost => { draft with sourceHost := some value }
  | .validateActive =>
    { draft with flags.validateActive := draft.flags.validateActive || value = "true" }
  | .validateInactive =>
    { draft with flags.validateInactive := draft.flags.validateInactive || value = "true" }
  | .sendAlways => { draft with flags.sendAlways := draft.flags.sendAlways || value = "true" }

theorem setKey_of_takes {key : Key} {value : String} (takes : key.Takes value) (draft : Draft)
    (token : String) : draft.setKey token key.text value = .ok (draft.take (key, value)) := by
  cases key with
  | delayUp | delayDown | initWait | interval | missedMax =>
    obtain ⟨n, read⟩ := takes
    unfold Draft.setKey
    simp only [Key.text, readCount_eq_ok_iff.2 read, Draft.take, read]
    rfl
  | vlanId =>
    obtain ⟨n, read⟩ := takes
    unfold Draft.setKey
    simp only [Key.text, readVlan_eq_ok_iff.2 read, Draft.take, read]
    rfl
  | name | targetHost | sourceHost | validateActive | validateInactive | sendAlways =>
    unfold Draft.setKey
    rfl

theorem takes_of_setKey {draft next : Draft} {token name value : String}
    (set : draft.setKey token name value = .ok next) :
    ∃ key : Key, key.text = name ∧ key.Takes value := by
  have counted : ∀ {change : UInt32 → Except Error Draft},
      readCount token value >>= change = .ok next → ∃ n, count? value = some n := by
    intro change read
    obtain ⟨n, found, -⟩ := Reading.bind_eq_ok read
    exact ⟨n, readCount_eq_ok_iff.1 found⟩
  unfold Draft.setKey at set
  split at set
  · exact ⟨.name, rfl, trivial⟩
  · exact ⟨.delayUp, rfl, counted set⟩
  · exact ⟨.initWait, rfl, counted set⟩
  · exact ⟨.delayDown, rfl, counted set⟩
  · exact ⟨.interval, rfl, counted set⟩
  · exact ⟨.missedMax, rfl, counted set⟩
  · obtain ⟨n, found, -⟩ := Reading.bind_eq_ok set
    exact ⟨.vlanId, rfl, n, readVlan_eq_ok_iff.1 found⟩
  · exact ⟨.targetHost, rfl, trivial⟩
  · exact ⟨.sourceHost, rfl, trivial⟩
  · exact ⟨.validateActive, rfl, trivial⟩
  · exact ⟨.validateInactive, rfl, trivial⟩
  · exact ⟨.sendAlways, rfl, trivial⟩
  · cases set

theorem Key.text_legal (key : Key) : key.text ≠ "" ∧ '=' ∉ key.text.toList := by
  cases key <;> decide

theorem Key.text_injective {key other : Key} (same : key.text = other.text) : key = other := by
  have listed : ∀ key, key ∈ all := fun key => by cases key <;> decide
  have distinct : (all.map text).Nodup := by decide
  exact List.inj_on_of_nodup_map distinct (listed key) (listed other) same

theorem Spells.pieces {token : String} {entry : Key × String} (spelled : Spells token entry) :
    Text.pieces (· == '=') token = [entry.1.text, entry.2] :=
  (Text.pieces_eq_pair_iff '=' rfl).2 ⟨spelled.glued, entry.1.text_legal.2, spelled.single⟩

theorem Spells.unique {token : String} {entry other : Key × String} (spelled : Spells token entry)
    (also : Spells token other) : entry = other := by
  have cut := spelled.pieces
  rw [also.pieces] at cut
  injection cut with keys values
  injection values with value
  exact Prod.ext (Key.text_injective keys.symm) value.symm

theorem Draft.addToken_eq_ok_iff {draft next : Draft} {token : String} :
    draft.addToken token = .ok next ↔ ∃ entry, Spells token entry ∧ next = draft.take entry := by
  have sign : ("=" : String).toList = ['='] := rfl
  constructor
  · intro read
    unfold Draft.addToken at read
    split at read
    · cases read
    · next name value cut =>
      split at read
      · cases read
      · obtain ⟨glued, -, single⟩ := (Text.pieces_eq_pair_iff '=' sign).1 cut
        obtain ⟨key, rfl, takes⟩ := takes_of_setKey read
        rw [setKey_of_takes takes, Except.ok.injEq] at read
        exact ⟨(key, value), ⟨glued, single, takes⟩, read.symm⟩
    · cases read
  · rintro ⟨⟨key, value⟩, spelled, rfl⟩
    unfold Draft.addToken
    simp only [spelled.pieces, if_neg key.text_legal.1, setKey_of_takes spelled.takes]

theorem filter_heard (kind : Kind) (key : Key) (entries : List (Key × String)) :
    (entries.filterMap kind.heard).filter (·.1 = key) =
      (entries.filter (kind.hears ·.1 = some key)).map fun entry => (key, key.settle entry.2) := by
  induction entries with
  | nil => rfl
  | cons entry rest ih =>
    cases hears : kind.hears entry.1 with
    | none => simp [Kind.heard, hears, ih]
    | some own => by_cases same : own = key <;> simp [Kind.heard, hears, same, ih]

theorem lastOf_heard (kind : Kind) {key : Key} (unflagged : key ∉ Key.flags)
    (entries : List (Key × String)) :
    lastOf (entries.filterMap kind.heard) key =
      ((entries.filter (kind.hears ·.1 = some key)).getLast?).map (·.2) := by
  rw [lastOf, filter_heard, List.getLast?_map, Option.map_map]
  congr 1
  funext entry
  simp [Key.settle, unflagged]

/-- A field that is written by the keys that a kind hears as one of its own holds what was written
last. -/
theorem field_eq {α : Type} (field : Draft → α) (read : String → α) {kind : Kind} {key : Key}
    (unflagged : key ∉ Key.flags)
    (written : ∀ draft other value, field (Draft.take draft (other, value)) =
      if kind.hears other = some key then read value else field draft)
    (entries : List (Key × String)) :
    field (entries.foldl Draft.take {}) =
      ((lastOf (entries.filterMap kind.heard) key).map read).getD (field {}) := by
  rw [lastOf_heard kind unflagged, Option.map_map]
  -- the last entry that is heard decides, so the induction takes the entries from the end
  induction entries using List.reverseRecOn with
  | nil => rfl
  | append_singleton entries entry ih =>
    rw [List.foldl_append, List.foldl_cons, List.foldl_nil, written, List.filter_append]
    by_cases heard : kind.hears entry.1 = some key
    · simp [heard]
    · simpa [heard] using ih

theorem parsed_eq {α : Type} (field : Draft → α) (read? : String → Option α) {kind : Kind} {key : Key}
    (unflagged : key ∉ Key.flags)
    (written : ∀ draft other value, field (Draft.take draft (other, value)) =
      if kind.hears other = some key then (read? value).getD (field {}) else field draft)
    (entries : List (Key × String)) :
    field (entries.foldl Draft.take {}) =
      ((lastOf (entries.filterMap kind.heard) key).bind read?).getD (field {}) := by
  rw [field_eq field (fun value => (read? value).getD (field {})) unflagged written]
  cases lastOf (entries.filterMap kind.heard) key <;> rfl

theorem host_eq (field : Draft → Option String) {kind : Kind} {key : Key} (unflagged : key ∉ Key.flags)
    (initial : field {} = none)
    (written : ∀ draft other value, field (Draft.take draft (other, value)) =
      if kind.hears other = some key then some value else field draft)
    (entries : List (Key × String)) :
    field (entries.foldl Draft.take {}) = lastOf (entries.filterMap kind.heard) key := by
  rw [field_eq field some unflagged written, initial]
  cases lastOf (entries.filterMap kind.heard) key <;> rfl

theorem hears_flag {key : Key} (flag : key ∈ Key.flags) (other : Key) :
    Kind.arpPing.hears other = some key ↔ other = key := by
  simp only [Key.flags, List.mem_cons, List.not_mem_nil, or_false] at flag
  rcases flag with rfl | rfl | rfl <;> cases other <;> decide

theorem mem_heard_iff {key : Key} (flag : key ∈ Key.flags) (entries : List (Key × String)) :
    (key, "true") ∈ entries.filterMap Kind.arpPing.heard ↔ (key, "true") ∈ entries := by
  have raises : ∀ entry, Kind.arpPing.heard entry = some (key, "true") ↔ entry = (key, "true") := by
    rintro ⟨other, value⟩
    constructor
    · intro heard
      obtain ⟨own, hears, same⟩ := Option.map_eq_some_iff.1 heard
      obtain ⟨rfl, settled⟩ := Prod.mk.inj same
      obtain rfl := (hears_flag flag other).1 hears
      rw [Key.settle] at settled
      split at settled
      · exact absurd settled (by decide)
      · exact congrArg (Prod.mk other) settled
    · intro same
      obtain ⟨rfl, rfl⟩ := Prod.mk.inj same
      rw [Kind.heard, (hears_flag flag other).2 rfl]
      simp [Key.settle]
  simp only [List.mem_filterMap, raises, exists_eq_right]

theorem flag_eq (field : Draft → Bool) {key : Key} (flag : key ∈ Key.flags) (initial : field {} = false)
    (written : ∀ draft other value, field (Draft.take draft (other, value)) =
      (field draft || decide ((other, value) = (key, "true"))))
    (entries : List (Key × String)) :
    field (entries.foldl Draft.take {}) = true ↔
      (key, "true") ∈ entries.filterMap Kind.arpPing.heard := by
  rw [mem_heard_iff flag]
  induction entries using List.reverseRecOn with
  | nil => simp [initial]
  | append_singleton entries entry ih =>
    rw [List.foldl_append, List.foldl_cons, List.foldl_nil, written, List.mem_append, List.mem_singleton,
      ← ih, Bool.or_eq_true, decide_eq_true_iff]
    exact or_congr_right eq_comm

structure Draft.MakesProbe (draft : Draft) (probe : Probe) : Prop where
  made : probe = draft.probe probe.targetHost
  host : draft.targetHost = some probe.targetHost
  named : probe.targetHost ≠ ""

def Draft.Makes (draft : Draft) (watcher : LinkWatcher) : Prop :=
  draft.name = some watcher.kind.name ∧
    match watcher with
    | ethtool delayUp delayDown => delayUp = draft.first ∧ delayDown = draft.second
    | nsnaPing probe => draft.MakesProbe probe
    | arpPing probe vlan sourceHost flags =>
      draft.MakesProbe probe ∧ vlan = draft.vlan ∧
        (draft.sourceHost = some sourceHost ∧ sourceHost ≠ "") ∧ flags = draft.flags

theorem needHost_eq_ok_iff {host : Option String} {key kind found : String} :
    needHost host key kind = .ok found ↔ host = some found ∧ found ≠ "" := by
  unfold needHost
  cases host with
  | none => simp
  | some text =>
    by_cases empty : text = ""
    · subst empty
      simp [eq_comm]
    · simp only [if_neg empty, Except.ok.injEq, Option.some.injEq]
      exact ⟨fun same => ⟨same, same ▸ empty⟩, And.left⟩

theorem Draft.MakesProbe.needHost_eq {draft : Draft} {probe : Probe} (made : draft.MakesProbe probe)
    (key kind : String) : needHost draft.targetHost key kind = .ok probe.targetHost :=
  needHost_eq_ok_iff.2 ⟨made.host, made.named⟩

theorem Draft.makes_of_finish {draft : Draft} {watcher : LinkWatcher} (finished : draft.finish = .ok watcher) :
    draft.Makes watcher := by
  unfold Draft.finish at finished
  split at finished
  · cases finished
  · next named =>
    cases finished
    exact ⟨named, rfl, rfl⟩
  · next named =>
    obtain ⟨target, found, finished⟩ := Reading.bind_eq_ok finished
    cases finished
    obtain ⟨given, notEmpty⟩ := needHost_eq_ok_iff.1 found
    exact ⟨named, rfl, given, notEmpty⟩
  · next named =>
    obtain ⟨target, found, finished⟩ := Reading.bind_eq_ok finished
    obtain ⟨source, foundSource, finished⟩ := Reading.bind_eq_ok finished
    cases finished
    obtain ⟨given, notEmpty⟩ := needHost_eq_ok_iff.1 found
    exact ⟨named, ⟨rfl, given, notEmpty⟩, rfl, needHost_eq_ok_iff.1 foundSource, rfl⟩
  · cases finished

theorem Draft.Makes.finish_eq {draft : Draft} {watcher : LinkWatcher} (makes : draft.Makes watcher) :
    draft.finish = .ok watcher := by
  obtain ⟨named, made⟩ := makes
  unfold Draft.finish
  cases watcher with
  | ethtool delayUp delayDown =>
    obtain ⟨rfl, rfl⟩ := made
    simp only [named, kind, Kind.name]
  | nsnaPing probe =>
    simp only [named, kind, Kind.name, made.needHost_eq]
    exact congrArg (Except.ok ∘ nsnaPing) made.made.symm
  | arpPing probe vlan sourceHost flags =>
    obtain ⟨made, rfl, source, rfl⟩ := made
    have sourced : ∀ key kind, needHost draft.sourceHost key kind = .ok sourceHost :=
      fun key kind => needHost_eq_ok_iff.2 source
    simp only [named, kind, Kind.name, made.needHost_eq, sourced]
    exact congrArg (fun probe => Except.ok (arpPing probe draft.vlan sourceHost draft.flags)) made.made.symm

theorem Draft.finish_eq_ok_iff {draft : Draft} {watcher : LinkWatcher} :
    draft.finish = .ok watcher ↔ draft.Makes watcher := ⟨makes_of_finish, Makes.finish_eq⟩

theorem probe_iff {kind : Kind} (probing : kind = .nsnaPing ∨ kind = .arpPing)
    (entries : List (Key × String)) (probe : Probe) :
    (entries.foldl Draft.take {}).MakesProbe probe ↔
      Probe.StatedBy probe (entries.filterMap kind.heard) := by
  have first : (entries.foldl Draft.take {}).first = lastCount (entries.filterMap kind.heard) .initWait 0 :=
    parsed_eq Draft.first count? (by decide)
      (fun draft key value => by rcases probing with rfl | rfl <;> cases key <;> rfl) entries
  have second : (entries.foldl Draft.take {}).second = lastCount (entries.filterMap kind.heard) .interval 0 :=
    parsed_eq Draft.second count? (by decide)
      (fun draft key value => by rcases probing with rfl | rfl <;> cases key <;> rfl) entries
  have missed : (entries.foldl Draft.take {}).missedMax =
      lastCount (entries.filterMap kind.heard) .missedMax 3 :=
    parsed_eq Draft.missedMax count? (by decide)
      (fun draft key value => by rcases probing with rfl | rfl <;> cases key <;> rfl) entries
  have target : (entries.foldl Draft.take {}).targetHost =
      lastOf (entries.filterMap kind.heard) .targetHost :=
    host_eq Draft.targetHost (by decide) rfl
      (fun draft key value => by rcases probing with rfl | rfl <;> cases key <;> rfl) entries
  constructor
  · rintro ⟨made, host, named⟩
    rw [made]
    exact ⟨first, second, missed, target ▸ host, named⟩
  · rintro ⟨initWait, interval, missedMax, host, named⟩
    refine ⟨?_, target.trans host, named⟩
    obtain ⟨w, i, m, t⟩ := probe
    simp only [Draft.probe, Probe.mk.injEq, and_true]
    exact ⟨initWait.trans first.symm, interval.trans second.symm, missedMax.trans missed.symm⟩

theorem flags_iff (entries : List (Key × String)) (flags : ArpFlags) :
    flags = (entries.foldl Draft.take {}).flags ↔
      ArpFlags.StatedBy flags (entries.filterMap Kind.arpPing.heard) := by
  have active := flag_eq (·.flags.validateActive) (by decide : Key.validateActive ∈ Key.flags) rfl
    (fun draft key value => by cases key <;> simp [Draft.take]) entries
  have inactive := flag_eq (·.flags.validateInactive) (by decide : Key.validateInactive ∈ Key.flags) rfl
    (fun draft key value => by cases key <;> simp [Draft.take]) entries
  have always := flag_eq (·.flags.sendAlways) (by decide : Key.sendAlways ∈ Key.flags) rfl
    (fun draft key value => by cases key <;> simp [Draft.take]) entries
  constructor
  · rintro rfl
    exact ⟨active, inactive, always⟩
  · rintro ⟨statedActive, statedInactive, statedAlways⟩
    have same : ∀ {left right : ArpFlags}, left.validateActive = right.validateActive →
        left.validateInactive = right.validateInactive → left.sendAlways = right.sendAlways →
        left = right := by
      rintro ⟨_, _, _⟩ ⟨_, _, _⟩ rfl rfl rfl
      rfl
    exact same (Bool.eq_iff_iff.2 (statedActive.trans active.symm))
      (Bool.eq_iff_iff.2 (statedInactive.trans inactive.symm))
      (Bool.eq_iff_iff.2 (statedAlways.trans always.symm))

theorem makes_iff (entries : List (Key × String)) (watcher : LinkWatcher) :
    (entries.foldl Draft.take {}).Makes watcher ↔
      watcher.StatedBy (entries.filterMap watcher.kind.heard) := by
  have name : (entries.foldl Draft.take {}).name = lastOf (entries.filterMap watcher.kind.heard) .name :=
    host_eq Draft.name (by decide) rfl
      (fun draft key value => by cases watcher <;> cases key <;> rfl) entries
  unfold Draft.Makes StatedBy
  rw [name]
  refine and_congr_right fun _ => ?_
  cases watcher with
  | ethtool delayUp delayDown =>
    have first : (entries.foldl Draft.take {}).first =
        lastCount (entries.filterMap Kind.ethtool.heard) .delayUp 0 :=
      parsed_eq Draft.first count? (by decide) (fun draft key value => by cases key <;> rfl) entries
    have second : (entries.foldl Draft.take {}).second =
        lastCount (entries.filterMap Kind.ethtool.heard) .delayDown 0 :=
      parsed_eq Draft.second count? (by decide) (fun draft key value => by cases key <;> rfl) entries
    simp only [kind, first, second]
  | nsnaPing probe => exact probe_iff (.inl rfl) entries probe
  | arpPing probe vlan sourceHost flags =>
    have vlanRead : (entries.foldl Draft.take {}).vlan =
        ((lastOf (entries.filterMap Kind.arpPing.heard) .vlanId).bind vlan?).getD (-1) :=
      parsed_eq Draft.vlan vlan? (by decide) (fun draft key value => by cases key <;> rfl) entries
    have source : (entries.foldl Draft.take {}).sourceHost =
        lastOf (entries.filterMap Kind.arpPing.heard) .sourceHost :=
      host_eq Draft.sourceHost (by decide) rfl (fun draft key value => by cases key <;> rfl) entries
    simp only [kind, vlanRead, source, flags_iff, probe_iff (.inr rfl)]

theorem parse_of_tokens {text : String} (written : Text.tokens text ≠ []) :
    parse text = (Text.tokens text).foldlM Draft.addToken {} >>= Draft.finish := by
  unfold parse
  split
  · next blank => exact absurd blank written
  · rfl

theorem run_eq_ok_iff {tokens : List String} {draft : Draft} :
    tokens.foldlM Draft.addToken {} = .ok draft ↔
      ∃ entries, List.Forall₂ Spells tokens entries ∧ draft = entries.foldl Draft.take {} := by
  refine Reading.foldlM_eq_ok_iff fun state token next => ?_
  exact Draft.addToken_eq_ok_iff

theorem parse_eq_ok_iff {text : String} {watcher : LinkWatcher} :
    parse text = .ok watcher ↔ ∃ entries, List.Forall₂ Spells (Text.tokens text) entries ∧
      watcher.StatedBy (entries.filterMap watcher.kind.heard) := by
  by_cases written : Text.tokens text ≠ []
  · rw [parse_of_tokens written]
    constructor
    · intro read
      obtain ⟨draft, run, finished⟩ := Reading.bind_eq_ok read
      obtain ⟨entries, spelled, rfl⟩ := run_eq_ok_iff.1 run
      exact ⟨entries, spelled, (makes_iff entries watcher).1 (Draft.finish_eq_ok_iff.1 finished)⟩
    · rintro ⟨entries, spelled, stated⟩
      rw [run_eq_ok_iff.2 ⟨entries, spelled, rfl⟩]
      exact Draft.finish_eq_ok_iff.2 ((makes_iff entries watcher).2 stated)
  · have blank : Text.tokens text = [] := not_not.1 written
    rw [blank]
    constructor
    · intro read
      unfold parse at read
      split at read
      · cases read
      · next tokened => exact absurd blank tokened
    · rintro ⟨entries, empty, stated⟩
      cases empty
      exact absurd stated.1 (by simp [lastOf])

theorem Kind.hears_self_iff (kind : Kind) (key : Key) : kind.hears key = some key ↔ key ∈ kind.keys := by
  cases kind <;> cases key <;> decide

theorem Kind.mem_keys_of_hears {kind : Kind} {key own : Key} (hears : kind.hears key = some own) :
    own ∈ kind.keys := by
  cases kind <;> cases key <;> first | cases hears; decide | cases hears

theorem Key.settle_eq_self_iff (key : Key) (value : String) :
    key.settle value = value ↔ (key ∈ flags → value = "true" ∨ value = "false") := by
  unfold settle
  split
  · next unsettled => simp [unsettled, eq_comm]
  · next settled =>
    simp only [true_iff]
    exact fun flag => .inl (not_not.1 fun other => settled ⟨flag, other⟩)

theorem Kind.heard_eq_self_iff (kind : Kind) (entry : Key × String) :
    kind.heard entry = some entry ↔ kind.Owns entry := by
  have parts : kind.heard entry = some entry ↔
      kind.hears entry.1 = some entry.1 ∧ entry.1.settle entry.2 = entry.2 := by
    rw [heard, Option.map_eq_some_iff]
    constructor
    · rintro ⟨own, hears, same⟩
      obtain rfl : own = entry.1 := congrArg Prod.fst same
      exact ⟨hears, congrArg Prod.snd same⟩
    · rintro ⟨hears, settled⟩
      exact ⟨entry.1, hears, Prod.ext rfl settled⟩
  rw [parts, hears_self_iff, Key.settle_eq_self_iff]
  exact ⟨fun owned => ⟨owned.1, owned.2⟩, fun owned => ⟨owned.1, owned.2⟩⟩

theorem Kind.owns_of_heard {kind : Kind} {entry understood : Key × String}
    (heard : kind.heard entry = some understood) : kind.Owns understood := by
  obtain ⟨own, hears, rfl⟩ := Option.map_eq_some_iff.1 heard
  refine ⟨mem_keys_of_hears hears, fun flag => ?_⟩
  change own.settle entry.2 = "true" ∨ own.settle entry.2 = "false"
  unfold Key.settle
  split
  · exact .inr rfl
  · next settled => exact .inl (not_not.1 fun other => settled ⟨flag, other⟩)

theorem Kind.heard_all_iff (kind : Kind) (entries : List (Key × String)) :
    entries.filterMap kind.heard = entries ↔ ∀ entry ∈ entries, kind.Owns entry := by
  induction entries with
  | nil => simp
  | cons entry rest ih =>
    rw [List.forall_mem_cons, ← heard_eq_self_iff, ← ih]
    constructor
    · intro same
      cases heard : kind.heard entry with
      | none =>
        -- an entry that is left out makes the list shorter
        rw [List.filterMap_cons_none heard] at same
        have shorter := List.length_filterMap_le kind.heard rest
        rw [same, List.length_cons] at shorter
        omega
      | some understood =>
        rw [List.filterMap_cons_some heard, List.cons.injEq] at same
        exact ⟨congrArg some same.1, same.2⟩
    · rintro ⟨heard, others⟩
      rw [List.filterMap_cons_some heard, others]

/-- An accepted text has the values of its watcher under keys of all kinds. What it is understood as has
only keys of the watcher's kind and flags that are true or false, and it is the text as it was written
just when that one already had no others. -/
theorem understood_of_parse {text : String} {watcher : LinkWatcher} (read : parse text = .ok watcher) :
    ∃ entries, (∀ others, List.Forall₂ Spells (Text.tokens text) others ↔ others = entries) ∧
      watcher.StatedBy (entries.filterMap watcher.kind.heard) ∧
      (∀ entry ∈ entries.filterMap watcher.kind.heard, watcher.kind.Owns entry) ∧
      (entries.filterMap watcher.kind.heard = entries ↔ ∀ entry ∈ entries, watcher.kind.Owns entry) := by
  obtain ⟨entries, spelled, stated⟩ := parse_eq_ok_iff.1 read
  refine ⟨entries, fun others => ?_, stated, fun entry understood => ?_, watcher.kind.heard_all_iff entries⟩
  · constructor
    · have unique : Relator.RightUnique Spells := fun _ _ _ => Spells.unique
      exact fun also => List.right_unique_forall₂' unique also spelled
    · rintro rfl
      exact spelled
  · obtain ⟨written, -, heard⟩ := List.mem_filterMap.1 understood
    exact Kind.owns_of_heard heard

theorem understood_of_parse_arp_ping :
    let text := "delay-up=5 name=arp_ping source-host=g send-always=maybe target-host=h"
    let watcher := arpPing { initWait := 5, targetHost := "h" } (-1) "g" {}
    parse text = .ok watcher ∧
      ∃ entries, (∀ others, List.Forall₂ Spells (Text.tokens text) others ↔ others = entries) ∧
        watcher.StatedBy (entries.filterMap watcher.kind.heard) ∧
        (∀ entry ∈ entries.filterMap watcher.kind.heard, watcher.kind.Owns entry) ∧
        (entries.filterMap watcher.kind.heard = entries ↔
          ∀ entry ∈ entries, watcher.kind.Owns entry) := by
  intro text watcher
  have read : parse text = .ok watcher := by decide +kernel
  exact ⟨read, understood_of_parse read⟩

/-- The host of a watcher that has no hosts is left out. -/
theorem foreign_key_accepted :
    let text := "name=ethtool target-host=h"
    let entries : List (Key × String) := [(.name, "ethtool"), (.targetHost, "h")]
    parse text = .ok (ethtool 0 0) ∧ List.Forall₂ Spells (Text.tokens text) entries ∧
      ¬(∀ entry ∈ entries, Kind.ethtool.Owns entry) ∧
      entries.filterMap Kind.ethtool.heard = [(.name, "ethtool")] := by
  intro text entries
  have cut : Text.tokens text = ["name=ethtool", "target-host=h"] := by decide +kernel
  refine ⟨by decide +kernel, ?_, fun owned => ?_, by decide⟩
  · rw [cut]
    exact .cons ⟨rfl, by decide, trivial⟩ (.cons ⟨rfl, by decide, trivial⟩ .nil)
  · exact absurd (owned (.targetHost, "h") (by decide)).own (by decide)

end NetProfile.LinkWatcher
