import NetProfile.Proofs.Record.LinkWatcherKeys
import NetProfile.Proofs.Scalar.Integer

/-!
Lists of link watchers and what is read back of them. A host may hold blanks of any kind but spaces and
tabs. A watcher that was read from a text is printed in an order of its own, and if a host comes last
there, the blanks at its end are taken for the end of the line. Everything else is read back as it was.
-/

namespace NetProfile.LinkWatcher

def countEntry (key : Key) (usual value : UInt32) : List (Key × String) :=
  if value = usual then [] else [(key, Numeral.decimalDigits value.toNat)]

def flagEntry (key : Key) (value : Bool) : List (Key × String) := if value then [(key, "true")] else []

def Probe.entries (probe : Probe) : List (Key × String) :=
  countEntry .initWait 0 probe.initWait ++ countEntry .interval 0 probe.interval
    ++ countEntry .missedMax 3 probe.missedMax ++ [(.targetHost, probe.targetHost)]

def vlanEntry (vlan : Int32) : List (Key × String) :=
  if vlan = -1 then [] else [(.vlanId, Numeral.decimal vlan.toInt)]

def ArpFlags.entries (flags : ArpFlags) : List (Key × String) :=
  flagEntry .validateActive flags.validateActive ++ flagEntry .validateInactive flags.validateInactive
    ++ flagEntry .sendAlways flags.sendAlways

def entries (watcher : LinkWatcher) : List (Key × String) :=
  (.name, watcher.kind.name) ::
    match watcher with
    | ethtool delayUp delayDown => countEntry .delayUp 0 delayUp ++ countEntry .delayDown 0 delayDown
    | nsnaPing probe => Probe.entries probe
    | arpPing probe vlan sourceHost flags =>
      Probe.entries probe ++ vlanEntry vlan ++ [(.sourceHost, sourceHost)] ++ ArpFlags.entries flags

def spell (entry : Key × String) : String := entry.1.text ++ "=" ++ entry.2

theorem words_eq (watcher : LinkWatcher) : watcher.words = watcher.entries.map spell := by
  have count : ∀ key usual value,
      countWord (Key.text key) usual value = (countEntry key usual value).map spell := by
    intro key usual value
    unfold countWord countEntry
    split <;> rfl
  have flag : ∀ key value, flagWord (Key.text key) value = (flagEntry key value).map spell := by
    intro key value
    have sign : "=true" = "=" ++ "true" := rfl
    cases value with
    | false => rfl
    | true => rw [flagWord, if_pos rfl, sign, ← String.append_assoc]; rfl
  have vlanWord : ∀ vlan : Int32, (if vlan = -1 then [] else ["vlanid=" ++ Numeral.decimal vlan.toInt])
      = (vlanEntry vlan).map spell := by
    intro vlan
    unfold vlanEntry
    split <;> rfl
  have probeWords : ∀ probe : Probe, Probe.words probe = (Probe.entries probe).map spell := by
    intro probe
    simp only [Probe.words, Probe.entries, List.map_append, ← count]
    rfl
  cases watcher with
  | ethtool delayUp delayDown =>
    simp only [words, entries, List.map_cons, List.map_append, ← count]
    rfl
  | nsnaPing probe =>
    simp only [words, entries, List.map_cons, probeWords]
    rfl
  | arpPing probe vlan sourceHost flags =>
    simp only [words, entries, ArpFlags.entries, List.map_cons, List.map_append, probeWords, vlanWord,
      ← flag, List.append_assoc]
    rfl

structure IsHost (text : String) : Prop where
  clean : ∀ c ∈ text.toList, Text.isSpaceOrTab c = false ∧ c ≠ ','
  single : '=' ∉ text.toList

instance (text : String) : Decidable (IsHost text) :=
  decidable_of_iff
    ((text.toList.all fun c => Text.isSpaceOrTab c == false && c != ',') = true ∧ '=' ∉ text.toList) <| by
    rw [List.all_eq_true]
    simp only [Bool.and_eq_true, beq_iff_eq, bne_iff_ne]
    exact ⟨fun legal => ⟨legal.1, legal.2⟩, fun host => ⟨host.clean, host.single⟩⟩

def hosts : LinkWatcher → List String
  | ethtool .. => []
  | nsnaPing probe => [probe.targetHost]
  | arpPing probe _ sourceHost _ => [probe.targetHost, sourceHost]

def Probe.counts (probe : Probe) : List UInt32 := [probe.initWait, probe.interval, probe.missedMax]

def counts : LinkWatcher → List UInt32
  | ethtool delayUp delayDown => [delayUp, delayDown]
  | nsnaPing probe => Probe.counts probe
  | arpPing probe .. => Probe.counts probe

def vlan : LinkWatcher → Int32
  | arpPing _ vlan .. => vlan
  | _ => -1

/-- What every watcher that was read from an item of a list satisfies, apart from its hosts being named. -/
structure WellFormed (watcher : LinkWatcher) : Prop where
  counts : ∀ n ∈ watcher.counts, n.toNat ≤ 2147483647
  vlan : -1 ≤ watcher.vlan.toInt ∧ watcher.vlan.toInt ≤ 4094
  hosts : ∀ host ∈ watcher.hosts, IsHost host

theorem le_of_count? {value : String} {n : UInt32} (read : count? value = some n) :
    n.toNat ≤ 2147483647 := by
  obtain ⟨m, found, rfl⟩ := Option.map_eq_some_iff.1 read
  have bound := Numeral.le_of_natural? found
  rwa [UInt32.toNat_ofNat_of_lt' (by rw [UInt32.size]; omega)]

theorem lastCount_le (entries : List (Key × String)) (key : Key) {usual : UInt32}
    (small : usual.toNat ≤ 2147483647) : (lastCount entries key usual).toNat ≤ 2147483647 := by
  unfold lastCount
  cases read : (lastOf entries key).bind count? with
  | none => exact small
  | some n =>
    obtain ⟨value, -, counted⟩ := Option.bind_eq_some_iff.1 read
    exact le_of_count? counted

theorem bounds_of_vlan? {value : String} {n : Int32} (read : vlan? value = some n) :
    -1 ≤ n.toInt ∧ n.toInt ≤ 4094 := by
  obtain ⟨m, found, rfl⟩ := Option.map_eq_some_iff.1 read
  cases within : readWithin (.fixed 10) (-1) 4094 value with
  | error fault =>
    rw [within] at found
    cases found
  | ok number =>
    rw [within] at found
    cases found
    obtain ⟨low, high⟩ := readWithin_mem within
    have least : -1 ≤ m.toInt := Int64.le_iff_toInt_le.1 low
    have greatest : m.toInt ≤ 4094 := Int64.le_iff_toInt_le.1 high
    rw [Int64.toInt_toInt32, Int.bmod_eq_of_le (by omega) (by omega)]
    exact ⟨least, greatest⟩

theorem lastVlan_bounds (entries : List (Key × String)) :
    -1 ≤ (((lastOf entries .vlanId).bind vlan?).getD (-1)).toInt ∧
      (((lastOf entries .vlanId).bind vlan?).getD (-1)).toInt ≤ 4094 := by
  cases read : (lastOf entries .vlanId).bind vlan? with
  | none => exact ⟨by decide, by decide⟩
  | some n =>
    obtain ⟨value, -, within⟩ := Option.bind_eq_some_iff.1 read
    exact bounds_of_vlan? within

theorem count?_decimalDigits {n : UInt32} (small : n.toNat ≤ 2147483647) :
    count? (Numeral.decimalDigits n.toNat) = some n := by
  rw [count?, Numeral.natural?_decimal (.inr rfl) small, Option.map_some, UInt32.ofNat_toNat]

theorem vlan?_decimal {n : Int32} (inside : -1 ≤ n.toInt ∧ n.toInt ≤ 4094) :
    vlan? (Numeral.decimal n.toInt) = some n := by
  have exact : n.toInt64.toInt = n.toInt := Int32.toInt_toInt64 n
  have read := Numeral.readSigned_decimal (.inr rfl : Numeral.Base.ReadsDecimal (.fixed 10)) n.toInt
  rw [← exact] at read
  have within : Within (-1, 4094) n.toInt64 :=
    ⟨Int64.le_iff_toInt_le.2 (exact ▸ inside.1), Int64.le_iff_toInt_le.2 (exact ▸ inside.2)⟩
  rw [← exact, vlan?, readWithin_of_readSigned (-1, 4094) read within]
  simp [Except.toOption]

theorem mem_of_lastOf_heard {kind : Kind} {key : Key} (unflagged : key ∉ Key.flags)
    {entries : List (Key × String)} {value : String}
    (last : lastOf (entries.filterMap kind.heard) key = some value) : ∃ other, (other, value) ∈ entries := by
  rw [lastOf_heard kind unflagged] at last
  obtain ⟨⟨other, value⟩, found, rfl⟩ := Option.map_eq_some_iff.1 last
  exact ⟨other, (List.mem_filter.1 (List.mem_of_getLast? found)).1⟩

theorem isHost_of_mem {tokens : List String} {entries : List (Key × String)}
    (spelled : List.Forall₂ Spells tokens entries) (all : ∀ token ∈ tokens, Text.IsToken token)
    {entry : Key × String} (here : entry ∈ entries) : IsHost entry.2 := by
  induction spelled with
  | nil => cases here
  | cons first rest ih =>
    rcases List.mem_cons.1 here with rfl | later
    · refine ⟨fun c inside => (all _ List.mem_cons_self).clean c ?_, first.single⟩
      rw [first.glued, String.toList_append]
      exact List.mem_append_right _ inside
    · exact ih (fun token member => all token (List.mem_cons_of_mem _ member)) later

theorem Probe.StatedBy.count_le {probe : Probe} {entries : List (Key × String)}
    (stated : Probe.StatedBy probe entries) : ∀ n ∈ Probe.counts probe, n.toNat ≤ 2147483647 := by
  intro n here
  simp only [Probe.counts, stated.initWait, stated.interval, stated.missedMax, List.mem_cons,
    List.not_mem_nil, or_false] at here
  rcases here with rfl | rfl | rfl <;> exact lastCount_le _ _ (by decide)

theorem wellFormed_of_parse {text part : String} {watcher : LinkWatcher}
    (cut : part ∈ Text.items Text.isComma text) (read : parse part = .ok watcher) :
    watcher.WellFormed ∧ "" ∉ watcher.hosts := by
  obtain ⟨entries, spelled, -, stated⟩ := parse_eq_ok_iff.1 read
  have isHost : ∀ key ∉ Key.flags, ∀ host,
      lastOf (entries.filterMap watcher.kind.heard) key = some host → IsHost host := by
    intro key unflagged host last
    obtain ⟨other, here⟩ := mem_of_lastOf_heard unflagged last
    exact isHost_of_mem spelled (fun token member => Text.isToken_of_mem_tokens cut member) here
  have unset : -1 ≤ (-1 : Int32).toInt ∧ (-1 : Int32).toInt ≤ 4094 := by decide
  cases watcher with
  | ethtool delayUp delayDown =>
    refine ⟨⟨?_, unset, fun host heard => nomatch heard⟩, List.not_mem_nil⟩
    obtain ⟨up, down⟩ := stated
    refine List.forall_mem_cons.2 ⟨?_, List.forall_mem_singleton.2 ?_⟩
    · exact up ▸ lastCount_le _ _ (by decide)
    · exact down ▸ lastCount_le _ _ (by decide)
  | nsnaPing probe =>
    refine ⟨⟨Probe.StatedBy.count_le stated, unset, List.forall_mem_singleton.2 ?_⟩, ?_⟩
    · exact isHost .targetHost (by decide) _ stated.targetHost
    · exact fun empty => stated.named (List.mem_singleton.1 empty).symm
  | arpPing probe vlan sourceHost flags =>
    obtain ⟨probed, vlanRead, ⟨source, named⟩, -⟩ := stated
    have inside : -1 ≤ vlan.toInt ∧ vlan.toInt ≤ 4094 := by
      rw [vlanRead]
      exact lastVlan_bounds _
    refine ⟨⟨Probe.StatedBy.count_le probed, inside, List.forall_mem_cons.2 ⟨?_, List.forall_mem_singleton.2 ?_⟩⟩, ?_⟩
    · exact isHost .targetHost (by decide) _ probed.targetHost
    · exact isHost .sourceHost (by decide) _ source
    · simp only [hosts, List.mem_cons, List.not_mem_nil, or_false, not_or]
      exact ⟨probed.named.symm, named.symm⟩

def draft : LinkWatcher → Draft
  | ethtool delayUp delayDown => { name := some "ethtool", first := delayUp, second := delayDown }
  | nsnaPing probe =>
    { name := some "nsna_ping", first := probe.initWait, second := probe.interval
      missedMax := probe.missedMax, targetHost := some probe.targetHost }
  | arpPing probe vlan sourceHost flags =>
    { name := some "arp_ping", first := probe.initWait, second := probe.interval
      missedMax := probe.missedMax, targetHost := some probe.targetHost
      vlan, sourceHost := some sourceHost, flags }

theorem foldl_take_omitted {omitted : Prop} [Decidable omitted] {draft : Draft} {entry : Key × String}
    (silent : omitted → draft.take entry = draft) :
    (if omitted then [] else [entry]).foldl Draft.take draft = draft.take entry := by
  split
  · next holds => exact (silent holds).symm
  · rfl

theorem foldl_countEntry (set : Draft → UInt32 → Draft) {key : Key} {usual value : UInt32} {draft : Draft}
    (written : ∀ text n, count? text = some n → draft.take (key, text) = set draft n)
    (small : value.toNat ≤ 2147483647) (silent : set draft usual = draft) :
    (countEntry key usual value).foldl Draft.take draft = set draft value := by
  have taken := written _ _ (count?_decimalDigits small)
  rw [countEntry, foldl_take_omitted, taken]
  rintro rfl
  rw [taken, silent]

theorem foldl_flagEntry {key : Key} (flag : key ∈ Key.flags) (value : Bool) (draft : Draft) :
    (flagEntry key value).foldl Draft.take draft =
      draft.take (key, if value then "true" else "false") := by
  cases value with
  | true => rfl
  | false =>
    simp only [Key.flags, List.mem_cons, List.not_mem_nil, or_false] at flag
    rcases flag with rfl | rfl | rfl <;> simp [flagEntry, Draft.take]

theorem foldl_delays {firstKey secondKey : Key} {first second : UInt32}
    (firstSet : ∀ draft text n, count? text = some n →
      Draft.take draft (firstKey, text) = { draft with first := n })
    (secondSet : ∀ draft text n, count? text = some n →
      Draft.take draft (secondKey, text) = { draft with second := n })
    (firstSmall : first.toNat ≤ 2147483647) (secondSmall : second.toNat ≤ 2147483647)
    (name : Option String) :
    (countEntry firstKey 0 first ++ countEntry secondKey 0 second).foldl Draft.take { name } =
      { name, first, second } := by
  rw [List.foldl_append, foldl_countEntry (fun draft n => { draft with first := n }) (firstSet _)
    firstSmall rfl]
  exact foldl_countEntry (fun draft n => { draft with second := n }) (secondSet _) secondSmall rfl

theorem foldl_probe {probe : Probe} (small : ∀ n ∈ Probe.counts probe, n.toNat ≤ 2147483647)
    (name : Option String) :
    (Probe.entries probe).foldl Draft.take { name } =
      { name, first := probe.initWait, second := probe.interval, missedMax := probe.missedMax
        targetHost := some probe.targetHost } := by
  simp only [Probe.counts, List.forall_mem_cons] at small
  obtain ⟨initWait, interval, missedMax, -⟩ := small
  have delays : (countEntry .initWait 0 probe.initWait ++ countEntry .interval 0 probe.interval).foldl
      Draft.take { name } = { name, first := probe.initWait, second := probe.interval } :=
    foldl_delays (fun draft text n read => by simp [Draft.take, read])
      (fun draft text n read => by simp [Draft.take, read]) initWait interval name
  have missed : (countEntry .missedMax 3 probe.missedMax).foldl Draft.take
      { name, first := probe.initWait, second := probe.interval } =
      { name, first := probe.initWait, second := probe.interval, missedMax := probe.missedMax } :=
    foldl_countEntry (fun draft n => { draft with missedMax := n })
      (fun text n read => by simp [Draft.take, read]) missedMax rfl
  rw [Probe.entries, List.foldl_append, List.foldl_append, delays, missed]
  rfl

theorem foldl_flags (flags : ArpFlags) {draft : Draft} (unset : draft.flags = {}) :
    (ArpFlags.entries flags).foldl Draft.take draft = { draft with flags } := by
  obtain ⟨active, inactive, always⟩ := flags
  rw [ArpFlags.entries, List.foldl_append, List.foldl_append, foldl_flagEntry (by decide),
    foldl_flagEntry (by decide), foldl_flagEntry (by decide)]
  cases active <;> cases inactive <;> cases always <;> simp [Draft.take, unset]

theorem foldl_vlanEntry {vlan : Int32} (inside : -1 ≤ vlan.toInt ∧ vlan.toInt ≤ 4094) {draft : Draft}
    (unset : draft.vlan = -1) : (vlanEntry vlan).foldl Draft.take draft = { draft with vlan } := by
  have taken : draft.take (.vlanId, Numeral.decimal vlan.toInt) = { draft with vlan } := by
    simp [Draft.take, vlan?_decimal inside]
  rw [vlanEntry, foldl_take_omitted, taken]
  rintro rfl
  rw [taken, ← unset]

theorem foldl_entries {watcher : LinkWatcher} (legal : watcher.WellFormed) :
    watcher.entries.foldl Draft.take {} = watcher.draft := by
  have start : Draft.take {} (.name, watcher.kind.name) = { name := some watcher.kind.name } := rfl
  unfold entries
  rw [List.foldl_cons, start]
  cases watcher with
  | ethtool delayUp delayDown =>
    obtain ⟨up, down⟩ := List.forall_mem_cons.1 legal.counts
    exact foldl_delays (fun draft text n read => by simp [Draft.take, read])
      (fun draft text n read => by simp [Draft.take, read]) up (down _ (List.mem_singleton_self _)) _
  | nsnaPing probe => exact foldl_probe legal.counts _
  | arpPing probe vlan sourceHost flags =>
    have inside : -1 ≤ vlan.toInt ∧ vlan.toInt ≤ 4094 := legal.vlan
    rw [List.foldl_append, List.foldl_append, List.foldl_append, foldl_probe legal.counts,
      foldl_vlanEntry inside rfl]
    exact foldl_flags flags rfl

theorem Key.isWord_sign (key : Key) : Text.IsWord (key.text ++ "=") := by
  cases key <;> decide

structure Legal (entry : Key × String) : Prop where
  host : IsHost entry.2
  takes : entry.1.Takes entry.2

theorem Legal.spells {entry : Key × String} (legal : Legal entry) : Spells (spell entry) entry :=
  ⟨rfl, legal.host.single, legal.takes⟩

theorem Legal.isToken {entry : Key × String} (legal : Legal entry) : Text.IsToken (spell entry) :=
  entry.1.isWord_sign.isToken.append legal.host.clean

theorem isHost_decimal (i : Int) : IsHost (Numeral.decimal i) where
  clean c here := by
    refine ⟨Text.isSpaceOrTab_of_not_isBlank (Numeral.not_isBlank_of_mem_decimal here), ?_⟩
    rintro rfl
    exact (Numeral.mem_decimal here).elim (by decide) (by decide)
  single sign := (Numeral.mem_decimal sign).elim (by decide) (by decide)

theorem legal_of_mem_countEntry {key : Key} {usual value : UInt32} {entry : Key × String}
    (here : entry ∈ countEntry key usual value) (small : value.toNat ≤ 2147483647)
    (takes : ∀ value, (∃ n, count? value = some n) → key.Takes value) :
    Legal entry ∧ Text.IsWord (spell entry) := by
  unfold countEntry at here
  split at here
  · cases here
  · rw [List.mem_singleton.1 here]
    have legal : Legal (key, Numeral.decimalDigits value.toNat) :=
      ⟨isHost_decimal (.ofNat value.toNat), takes _ ⟨_, count?_decimalDigits small⟩⟩
    exact ⟨legal, key.isWord_sign.append (Numeral.isWord_decimalDigits _).clean⟩

theorem legal_of_mem_probe {probe : Probe} (small : ∀ n ∈ Probe.counts probe, n.toNat ≤ 2147483647)
    (host : IsHost probe.targetHost) {entry : Key × String} (here : entry ∈ Probe.entries probe) :
    Legal entry := by
  simp only [Probe.counts, List.forall_mem_cons] at small
  obtain ⟨initWait, interval, missedMax, -⟩ := small
  simp only [Probe.entries, List.mem_append, List.mem_singleton] at here
  rcases here with ((first | second) | missed) | rfl
  · exact (legal_of_mem_countEntry first initWait fun _ read => read).1
  · exact (legal_of_mem_countEntry second interval fun _ read => read).1
  · exact (legal_of_mem_countEntry missed missedMax fun _ read => read).1
  · exact ⟨host, trivial⟩

theorem Kind.isHost_name (kind : Kind) : IsHost kind.name := by
  cases kind <;> decide

theorem Kind.isWord_spell_name (kind : Kind) : Text.IsWord (spell (.name, kind.name)) := by
  cases kind <;> decide

theorem mem_flagEntry {key : Key} {value : Bool} {entry : Key × String}
    (here : entry ∈ flagEntry key value) : entry = (key, "true") := by
  cases value with
  | false => cases here
  | true => exact List.mem_singleton.1 here

theorem mem_flags {flags : ArpFlags} {entry : Key × String} (here : entry ∈ ArpFlags.entries flags) :
    Legal entry ∧ entry.2 = "true" := by
  have host : IsHost "true" := by decide
  simp only [ArpFlags.entries, List.mem_append] at here
  rcases here with (active | inactive) | always
  · rw [mem_flagEntry active]
    exact ⟨⟨host, trivial⟩, rfl⟩
  · rw [mem_flagEntry inactive]
    exact ⟨⟨host, trivial⟩, rfl⟩
  · rw [mem_flagEntry always]
    exact ⟨⟨host, trivial⟩, rfl⟩

theorem legal_of_mem_delays {delayUp delayDown : UInt32} (legal : (ethtool delayUp delayDown).WellFormed)
    {entry : Key × String} (here : entry ∈ (ethtool delayUp delayDown).entries) :
    Legal entry ∧ Text.IsWord (spell entry) := by
  obtain ⟨up, down⟩ := List.forall_mem_cons.1 legal.counts
  rcases List.mem_cons.1 here with rfl | here
  · exact ⟨⟨Kind.ethtool.isHost_name, trivial⟩, Kind.isWord_spell_name _⟩
  · rcases List.mem_append.1 here with first | second
    · exact legal_of_mem_countEntry first up fun _ read => read
    · exact legal_of_mem_countEntry second (down _ (List.mem_singleton_self _)) fun _ read => read

theorem legal_of_mem_entries {watcher : LinkWatcher} (legal : watcher.WellFormed) {entry : Key × String}
    (here : entry ∈ watcher.entries) : Legal entry := by
  cases watcher with
  | ethtool delayUp delayDown => exact (legal_of_mem_delays legal here).1
  | nsnaPing probe =>
    rcases List.mem_cons.1 here with rfl | here
    · exact ⟨Kind.nsnaPing.isHost_name, trivial⟩
    · exact legal_of_mem_probe legal.counts (legal.hosts _ (by simp [hosts])) here
  | arpPing probe vlan sourceHost flags =>
    simp only [entries, List.mem_cons, List.mem_append, List.not_mem_nil, or_false] at here
    rcases here with rfl | ((probed | vlanned) | rfl) | flagged
    · exact ⟨Kind.arpPing.isHost_name, trivial⟩
    · exact legal_of_mem_probe legal.counts (legal.hosts _ (by simp [hosts])) probed
    · unfold vlanEntry at vlanned
      split at vlanned
      · cases vlanned
      · rw [List.mem_singleton.1 vlanned]
        exact ⟨isHost_decimal _, _, vlan?_decimal legal.vlan⟩
    · exact ⟨legal.hosts _ (by simp [hosts]), trivial⟩
    · exact (mem_flags flagged).1

def lastHost : LinkWatcher → Option (Key × String)
  | ethtool .. => none
  | nsnaPing probe => some (.targetHost, probe.targetHost)
  | arpPing _ _ sourceHost flags => if flags = {} then some (.sourceHost, sourceHost) else none

def clip : LinkWatcher → LinkWatcher
  | ethtool delayUp delayDown => ethtool delayUp delayDown
  | nsnaPing probe => nsnaPing { probe with targetHost := Text.trimEnd probe.targetHost }
  | arpPing probe vlan sourceHost flags =>
    arpPing probe vlan (if flags = {} then Text.trimEnd sourceHost else sourceHost) flags

/-- A host of nothing but blanks is missed. -/
def reread (watcher : LinkWatcher) : Except Error LinkWatcher :=
  match watcher.lastHost with
  | none => .ok watcher
  | some (key, host) =>
    if Text.trimEnd host = "" then .error (.incomplete key.text (watcher.kind.name ++ " link watcher"))
    else .ok watcher.clip

theorem IsHost.trimEnd {text : String} (host : IsHost text) : IsHost (Text.trimEnd text) where
  clean c here := host.clean c (Text.mem_of_mem_trimEnd here)
  single here := host.single (Text.mem_of_mem_trimEnd here)

theorem WellFormed.clip {watcher : LinkWatcher} (legal : watcher.WellFormed) : watcher.clip.WellFormed := by
  obtain ⟨counts, vlan, hosts⟩ := legal
  cases watcher with
  | ethtool delayUp delayDown => exact ⟨counts, vlan, hosts⟩
  | nsnaPing probe =>
    exact ⟨counts, vlan, List.forall_mem_singleton.2 (hosts _ List.mem_cons_self).trimEnd⟩
  | arpPing probe id sourceHost flags =>
    obtain ⟨target, source⟩ := List.forall_mem_cons.1 hosts
    have source := source _ List.mem_cons_self
    refine ⟨counts, vlan, List.forall_mem_cons.2 ⟨target, List.forall_mem_singleton.2 ?_⟩⟩
    split
    · exact source.trimEnd
    · exact source

theorem tokens_line {first last : Key × String} {middle : List (Key × String)}
    (start : Text.IsWord (spell first)) (inner : ∀ entry ∈ middle, Legal entry) (ending : IsHost last.2) :
    Text.tokens (String.intercalate " " ((first :: (middle ++ [last])).map spell)) =
      (first :: (middle ++ [(last.1, Text.trimEnd last.2)])).map spell := by
  have clipped : Text.trimEnd (spell last) = spell (last.1, Text.trimEnd last.2) :=
    Text.trimEnd_append_of_isTight last.1.isWord_sign.isTight last.2
  have final : Text.IsToken (Text.trimEnd (spell last)) :=
    clipped ▸ last.1.isWord_sign.isToken.append ending.trimEnd.clean
  have cut := Text.tokens_line_concat start
    (List.forall_mem_map.2 fun entry here => (inner entry here).isToken) final
  rw [clipped] at cut
  simpa only [List.map_cons, List.map_append, List.map_nil] using cut

theorem entries_ne_nil {flags : ArpFlags} (raised : flags ≠ {}) : ArpFlags.entries flags ≠ [] := by
  obtain ⟨active, inactive, always⟩ := flags
  revert raised
  cases active <;> cases inactive <;> cases always <;> decide

/-- The line of a watcher that probes hosts has more than one word, and of these only the last one is
clipped. -/
theorem exists_last {watcher : LinkWatcher} (probing : watcher.kind ≠ .ethtool) :
    ∃ middle last, watcher.entries = (.name, watcher.kind.name) :: (middle ++ [last]) ∧
      watcher.clip.entries = (.name, watcher.kind.name) :: (middle ++ [(last.1, Text.trimEnd last.2)]) := by
  cases watcher with
  | ethtool delayUp delayDown => exact absurd rfl probing
  | nsnaPing probe => exact ⟨_, (.targetHost, probe.targetHost), rfl, rfl⟩
  | arpPing probe vlan sourceHost flags =>
    by_cases unflagged : flags = {}
    · subst unflagged
      have unraised : ∀ source, (arpPing probe vlan source {}).entries =
          (.name, "arp_ping") :: (Probe.entries probe ++ vlanEntry vlan ++ [(.sourceHost, source)]) :=
        fun source => congrArg (List.cons _) (List.append_nil _)
      exact ⟨_, _, unraised sourceHost, unraised (Text.trimEnd sourceHost)⟩
    · -- the line ends with a flag, and the value of a flag has no blanks
      obtain ⟨others, last, raised⟩ :=
        (List.eq_nil_or_concat' (ArpFlags.entries flags)).resolve_left (entries_ne_nil unflagged)
      have final : last ∈ ArpFlags.entries flags := by simp [raised]
      have whole : (last.1, Text.trimEnd last.2) = last := by
        have same : Text.trimEnd "true" = "true" := by decide
        rw [← (mem_flags final).2] at same
        exact Prod.ext rfl same
      have shape : (arpPing probe vlan sourceHost flags).entries = (.name, "arp_ping") ::
          ((Probe.entries probe ++ vlanEntry vlan ++ [(.sourceHost, sourceHost)] ++ others) ++ [last]) := by
        rw [entries, raised, List.append_assoc _ others]
        rfl
      refine ⟨_, last, shape, ?_⟩
      rw [whole, clip, if_neg unflagged]
      exact shape

theorem tokens_toText {watcher : LinkWatcher} (legal : watcher.WellFormed) :
    Text.tokens watcher.toText = watcher.clip.entries.map spell := by
  rw [toText, words_eq]
  by_cases probing : watcher.kind ≠ .ethtool
  · obtain ⟨middle, last, whole, clipped⟩ := exists_last probing
    have members := fun entry (here : entry ∈ watcher.entries) => legal_of_mem_entries legal here
    rw [whole] at members
    rw [whole, clipped]
    refine tokens_line watcher.kind.isWord_spell_name (fun entry here => members entry ?_) ?_
    · exact List.mem_cons_of_mem _ (List.mem_append_left _ here)
    · exact (members last (by simp)).host
  · cases watcher with
    | ethtool delayUp delayDown =>
      exact Text.tokens_line (List.forall_mem_map.2 fun _ here => (legal_of_mem_delays legal here).2)
    | nsnaPing probe => exact absurd Kind.noConfusion probing
    | arpPing probe vlan sourceHost flags => exact absurd Kind.noConfusion probing

theorem tokens_ne_nil {watcher : LinkWatcher} (legal : watcher.WellFormed) : Text.tokens watcher.toText ≠ [] := by
  rw [tokens_toText legal]
  exact List.cons_ne_nil _ _

theorem forall₂_spell {entries : List (Key × String)} (legal : ∀ entry ∈ entries, Legal entry) :
    List.Forall₂ Spells (entries.map spell) entries := by
  rw [List.forall₂_map_left_iff, List.forall₂_same]
  exact fun entry here => (legal entry here).spells

theorem finish_draft {watcher : LinkWatcher} (named : "" ∉ watcher.hosts) :
    watcher.draft.finish = .ok watcher := by
  rw [Draft.finish_eq_ok_iff]
  cases watcher with
  | ethtool delayUp delayDown => exact ⟨rfl, rfl, rfl⟩
  | nsnaPing probe => exact ⟨rfl, rfl, rfl, fun empty => named (List.mem_singleton.2 empty.symm)⟩
  | arpPing probe vlan sourceHost flags =>
    simp only [hosts, List.mem_cons, List.not_mem_nil, or_false, not_or] at named
    exact ⟨rfl, ⟨rfl, rfl, Ne.symm named.1⟩, rfl, ⟨rfl, Ne.symm named.2⟩, rfl⟩

theorem finish_clip {watcher : LinkWatcher} (named : "" ∉ watcher.hosts) :
    watcher.clip.draft.finish = watcher.reread := by
  cases watcher with
  | ethtool delayUp delayDown => rfl
  | nsnaPing probe =>
    by_cases blank : Text.trimEnd probe.targetHost = ""
    · simp only [reread, lastHost, clip, blank]
      rfl
    · simp only [reread, lastHost, if_neg blank]
      exact finish_draft fun here => blank (List.mem_singleton.1 here).symm
  | arpPing probe vlan sourceHost flags =>
    by_cases unflagged : flags = {}
    · have target : ∀ key kind, needHost (some probe.targetHost) key kind = .ok probe.targetHost := by
        intro key kind
        exact needHost_eq_ok_iff.2 ⟨rfl, fun empty => named (empty ▸ List.mem_cons_self)⟩
      by_cases blank : Text.trimEnd sourceHost = ""
      · simp only [reread, lastHost, clip, if_pos unflagged, blank]
        unfold Draft.finish
        simp only [draft, target]
        rfl
      · simp only [reread, lastHost, if_pos unflagged, if_neg blank]
        refine finish_draft fun here => ?_
        rw [clip, if_pos unflagged] at here
        rcases List.mem_cons.1 here with empty | here
        · exact named (empty ▸ List.mem_cons_self)
        · exact blank (List.mem_singleton.1 here).symm
    · simp only [reread, lastHost, clip, if_neg unflagged]
      exact finish_draft named

theorem parse_space {line : String} (written : Text.tokens line ≠ []) : parse (" " ++ line) = parse line := by
  have padded : Text.tokens (" " ++ line) ≠ [] := by rwa [Text.tokens_space_append]
  rw [parse_of_tokens padded, parse_of_tokens written, Text.tokens_space_append]

theorem parse_toText {watcher : LinkWatcher} (legal : watcher.WellFormed) (named : "" ∉ watcher.hosts) :
    parse watcher.toText = watcher.reread := by
  have cut := tokens_toText legal
  have run : (Text.tokens watcher.toText).foldlM Draft.addToken {} = .ok watcher.clip.draft := by
    rw [run_eq_ok_iff, cut]
    exact ⟨watcher.clip.entries, forall₂_spell fun entry here => legal_of_mem_entries legal.clip here,
      (foldl_entries legal.clip).symm⟩
  rw [parse_of_tokens (tokens_ne_nil legal), run, ← finish_clip named]
  rfl

theorem toText_clean {watcher : LinkWatcher} (legal : watcher.WellFormed) :
    watcher.toText.toList ≠ [] ∧ ',' ∉ watcher.toText.toList := by
  rw [toText, words_eq]
  refine Text.line_clean (List.cons_ne_nil _ _) (List.forall_mem_map.2 fun entry here => ?_)
  exact (legal_of_mem_entries legal here).isToken

def Whole (watcher : LinkWatcher) : Prop :=
  ∀ key host, watcher.lastHost = some (key, host) → Text.trimEnd host = host

theorem clip_eq_self_iff {watcher : LinkWatcher} : watcher.clip = watcher ↔ watcher.Whole := by
  unfold Whole
  cases watcher with
  | ethtool delayUp delayDown => simp [clip, lastHost]
  | nsnaPing probe =>
    obtain ⟨initWait, interval, missedMax, targetHost⟩ := probe
    simp [clip, lastHost]
  | arpPing probe vlan sourceHost flags => by_cases unflagged : flags = {} <;> simp [clip, lastHost, unflagged]

theorem whole_clip (watcher : LinkWatcher) : watcher.clip.Whole := by
  rw [← clip_eq_self_iff]
  cases watcher with
  | ethtool delayUp delayDown => rfl
  | nsnaPing probe => simp [clip, Text.trimEnd_trimEnd]
  | arpPing probe vlan sourceHost flags =>
    by_cases unflagged : flags = {} <;> simp [clip, unflagged, Text.trimEnd_trimEnd]

/-- What is read back is the watcher without the blanks at the end of its line, if anything is. -/
theorem eq_clip_of_reread {watcher back : LinkWatcher} (read : watcher.reread = .ok back) :
    back = watcher.clip := by
  unfold reread at read
  split at read
  · next ended =>
    cases read
    exact (clip_eq_self_iff.2 fun key host other => nomatch ended.symm.trans other).symm
  · split at read
    · cases read
    · cases read
      rfl

theorem reread_eq_self_iff {watcher : LinkWatcher} (named : "" ∉ watcher.hosts) :
    watcher.reread = .ok watcher ↔ watcher.Whole := by
  constructor
  · intro read
    exact clip_eq_self_iff.1 (eq_clip_of_reread read).symm
  · intro whole
    rw [← finish_clip named, clip_eq_self_iff.2 whole, finish_draft named]

theorem wellFormed_of_readItems {text : String} {watchers : List LinkWatcher}
    (read : readItems Text.isComma parse text = .ok watchers) :
    ∀ watcher ∈ watchers, watcher.WellFormed ∧ "" ∉ watcher.hosts := by
  intro watcher here
  obtain ⟨part, cut, parsed⟩ := Reading.mem_of_mapM_eq_ok read here
  exact wellFormed_of_parse cut parsed

theorem readItems_lines {watchers : List LinkWatcher}
    (each : ∀ watcher ∈ watchers, watcher.WellFormed ∧ "" ∉ watcher.hosts) :
    readItems Text.isComma parse (formatList watchers) = watchers.mapM reread := by
  rw [formatList, Text.readItems_lines, List.mapM_map]
  · refine Reading.mapM_congr fun watcher here => ?_
    rw [Function.comp]
    exact parse_toText (each watcher here).1 (each watcher here).2
  · exact List.forall_mem_map.2 fun watcher here => toText_clean (each watcher here).1
  · refine List.forall_mem_map.2 fun watcher here => ?_
    rw [parse_space (tokens_ne_nil (each watcher here).1)]

theorem mapM_reread_eq_self_iff {watchers : List LinkWatcher}
    (each : ∀ watcher ∈ watchers, watcher.WellFormed ∧ "" ∉ watcher.hosts) :
    watchers.mapM reread = .ok watchers ↔ ∀ watcher ∈ watchers, watcher.Whole := by
  rw [Reading.mapM_eq_self_iff]
  exact forall₂_congr fun watcher here => reread_eq_self_iff (each watcher here).2

/-- Of a list that was read from any text the hosts at the ends of the lines lose the blanks at their
ends, and the list is read back as it was just when there are no such blanks. -/
theorem read_back_iff {text : String} {watchers : List LinkWatcher}
    (read : readItems Text.isComma parse text = .ok watchers) :
    readItems Text.isComma parse (formatList watchers) = watchers.mapM reread ∧
      (readItems Text.isComma parse (formatList watchers) = .ok watchers ↔
        ∀ watcher ∈ watchers, watcher.Whole) := by
  have each := wellFormed_of_readItems read
  refine ⟨readItems_lines each, ?_⟩
  rw [readItems_lines each]
  exact mapM_reread_eq_self_iff each

theorem read_back_iff_two :
    let text := "name=ethtool delay-up=007,source-host=b vlanid=-1 target-host=a\u000b name=arp_ping"
    let watchers := [ethtool 7 0, arpPing { targetHost := "a\u000b" } (-1) "b" {}]
    readItems Text.isComma parse text = .ok watchers ∧
      readItems Text.isComma parse (formatList watchers) = watchers.mapM reread ∧
        (readItems Text.isComma parse (formatList watchers) = .ok watchers ↔
          ∀ watcher ∈ watchers, watcher.Whole) := by
  intro text watchers
  have read : readItems Text.isComma parse text = .ok watchers := by decide +kernel
  exact ⟨read, read_back_iff read⟩

/-- A vertical tab at the end of a host is lost when the host is printed last. -/
theorem trailing_blank_lost :
    let text := "target-host=h\u000b name=nsna_ping"
    let watchers := [nsnaPing { targetHost := "h\u000b" }]
    readItems Text.isComma parse text = .ok watchers ∧
      readItems Text.isComma parse (formatList watchers) = .ok [nsnaPing { targetHost := "h" }] ∧
        [nsnaPing { targetHost := "h" }] ≠ watchers := by
  decide +kernel

theorem read_back_again {text : String} {watchers back : List LinkWatcher}
    (read : readItems Text.isComma parse text = .ok watchers)
    (again : readItems Text.isComma parse (formatList watchers) = .ok back) :
    readItems Text.isComma parse (formatList back) = .ok back := by
  have each := wellFormed_of_readItems read
  rw [readItems_lines (wellFormed_of_readItems again), mapM_reread_eq_self_iff (wellFormed_of_readItems again)]
  rw [readItems_lines each] at again
  intro watcher here
  obtain ⟨original, -, reread⟩ := Reading.mem_of_mapM_eq_ok again here
  rw [eq_clip_of_reread reread]
  exact whole_clip original

end NetProfile.LinkWatcher
