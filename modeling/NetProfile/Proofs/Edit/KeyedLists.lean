import Mathlib.Data.Set.List
import NetProfile.Proofs.Edit.Holding
import NetProfile.Proofs.Edit.ReadOnly
import NetProfile.Proofs.KeyedList

/-!
Lists whose items have keys: virtual functions with their index and priority maps with their left
side. Over every run of operations such a list is a map in the order of insertion.
-/

namespace NetProfile

namespace Item

def key? : Item → Option UInt32
  | priority entry => some entry.source
  | .function item => some item.index
  | _ => none

/-- Whether an item goes when a pattern is removed. Of a priority map that is every entry with the
left side of the pattern, unless the pattern has another right side. -/
def fits : Item → Item → Bool
  | priority entry, priority pattern =>
    entry.source = pattern.source ∧ (pattern.target = none ∨ entry.target = pattern.target)
  | .function item, .function pattern => item.index = pattern.index
  | _, _ => false

end Item

namespace ListContract

def isKeyed (list : ListContract) : Bool :=
  match list.form with
  | .priority _ | .function => true
  | _ => false

def patterns (list : ListContract) (text : String) : Except Error (List Item) :=
  match list.form with
  | .priority direction => (PriorityMap.parse direction true text).map (List.map .priority)
  | .function => (VirtualFunction.parse text).map fun function => [.function function]
  | _ => .ok []

variable {list : ListContract} {items held added : List Item}

theorem exists_priorities {direction : Direction} (form : list.form = .priority direction)
    (reads : ∀ item ∈ items, list.ReadsItem item) :
    ∃ entries : List PriorityEntry, entries.map .priority = items := by
  have each : ∀ item ∈ items, item ∈ Set.range Item.priority := by
    intro item here
    obtain ⟨text, read⟩ := reads item here
    simp only [parseItem, form] at read
    obtain ⟨entry, -, same⟩ := Reading.map_eq_ok read
    exact ⟨entry, same⟩
  exact (Set.range_list_map Item.priority).ge each

theorem exists_functions (form : list.form = .function) (reads : ∀ item ∈ items, list.ReadsItem item) :
    ∃ functions : List VirtualFunction, functions.map .function = items := by
  have each : ∀ item ∈ items, item ∈ Set.range Item.function := by
    intro item here
    obtain ⟨text, read⟩ := reads item here
    simp only [parseItem, form] at read
    obtain ⟨function, -, same⟩ := Reading.map_eq_ok read
    exact ⟨function, same⟩
  exact (Set.range_list_map Item.function).ge each

theorem isSome_key? (keyed : list.isKeyed = true) {item : Item} (reads : list.ReadsItem item) :
    item.key?.isSome = true := by
  obtain ⟨text, read⟩ := reads
  unfold isKeyed at keyed
  split at keyed
  · next form =>
    simp only [parseItem, form] at read
    obtain ⟨entry, -, rfl⟩ := Reading.map_eq_ok read
    rfl
  · next form =>
    simp only [parseItem, form] at read
    obtain ⟨function, -, rfl⟩ := Reading.map_eq_ok read
    rfl
  · cases keyed

theorem merge_eq_putAll (keyed : list.isKeyed = true) (old : ∀ item ∈ held, list.ReadsItem item)
    (new : ∀ item ∈ added, list.ReadsItem item) : list.merge held added = putAll Item.key? held added := by
  unfold isKeyed at keyed
  split at keyed
  · next form =>
    obtain ⟨entries, rfl⟩ := exists_priorities form old
    obtain ⟨others, rfl⟩ := exists_priorities form new
    simp only [merge, form, priorities_map]
    have told : ∀ other entry : PriorityEntry,
        (Item.priority other).key? = (Item.priority entry).key? ↔ other.source = entry.source := by
      simp [Item.key?]
    exact map_putAll Item.key? told entries others
  · next form =>
    obtain ⟨functions, rfl⟩ := exists_functions form old
    obtain ⟨others, rfl⟩ := exists_functions form new
    simp only [merge, form, functions_map]
    have told : ∀ other function : VirtualFunction,
        (Item.function other).key? = (Item.function function).key? ↔ other.index = function.index := by
      simp [Item.key?]
    exact map_putAll Item.key? told functions others
  · cases keyed

/-- Unless the text is a position, the items go that one of its patterns fits. -/
theorem remove_eq_filter (keyed : list.isKeyed = true) (reads : ∀ item ∈ held, list.ReadsItem item) {text : String}
    (noPosition : position? held.length text = none) :
    list.remove held text = (list.patterns text).map fun patterns =>
      held.filter fun item => !patterns.any item.fits := by
  unfold isKeyed at keyed
  split at keyed
  · next direction form =>
    obtain ⟨entries, rfl⟩ := exists_priorities form reads
    rw [List.length_map] at noPosition
    simp only [remove, patterns, form, priorities_map, PriorityMap.remove, noPosition]
    cases PriorityMap.parse direction true text with
    | error error => rfl
    | ok patterns =>
      refine congrArg Except.ok (Eq.trans ?_ List.filter_map.symm)
      refine congrArg (List.map _) (List.filter_congr fun entry _ => ?_)
      have alike : (Item.fits (.priority entry) ∘ Item.priority) = entry.fits := by
        funext pattern
        rw [Bool.eq_iff_iff]
        simp [Item.fits, PriorityEntry.fits]
      rw [Function.comp_apply, List.any_map, alike]
  · next form =>
    obtain ⟨functions, rfl⟩ := exists_functions form reads
    rw [List.length_map] at noPosition
    simp only [remove, patterns, form, functions_map, VirtualFunction.remove, noPosition]
    cases VirtualFunction.parse text with
    | error error => rfl
    | ok pattern =>
      refine congrArg Except.ok (Eq.trans ?_ List.filter_map.symm)
      refine congrArg (List.map _) (List.filter_congr fun function _ => ?_)
      simp [Item.fits]
  · cases keyed

structure Keyed (list : ListContract) (held : List Item) : Prop where
  reads : ∀ item ∈ held, list.ReadsItem item
  distinct : (held.map Item.key?).Nodup

theorem Keyed.add (keyed : list.isKeyed = true) {held after : List Item} (before : list.Keyed held)
    {text : String} (added : list.add held text = .ok after) : list.Keyed after where
  reads := readsItem_of_add before.reads added
  distinct := by
    obtain ⟨items, read, rfl⟩ := Reading.map_eq_ok added
    rw [merge_eq_putAll keyed before.reads fun item => readsItem_of_parseItems read]
    exact nodup_map_key_putAll before.distinct items

theorem Keyed.remove {held left : List Item} (before : list.Keyed held) {text : String}
    (removed : list.remove held text = .ok left) : list.Keyed left where
  reads := readsItem_of_remove before.reads removed
  distinct := before.distinct.sublist ((sublist_of_remove removed).map _)

theorem Keyed.on (keyed : list.isKeyed = true) {held after : List Item} (before : list.Keyed held)
    {action : Action} (acted : action.on [] list.add list.remove held = .ok after) : list.Keyed after := by
  cases action with
  | remove text => exact before.remove acted
  | set context standard assignment =>
    cases assignment with
    | unchanged =>
      cases acted
      exact before
    | reset =>
      cases acted
      exact ⟨by simp, List.nodup_nil⟩
    | text text => exact before.add keyed acted

theorem keyed_after {property : Property} (registered : property ∈ Catalogue.standard.properties)
    (isList : property.contract = .list list) (keyed : list.isKeyed = true) (operations : List Operation) :
    list.Keyed ((Profile.empty.after operations).list property.setting property.name) := by
  have nothing : list.Keyed [] := ⟨by simp, List.nodup_nil⟩
  apply (Holding.list isList).held_after_invariant registered list.Keyed nothing operations
  intro operation _ _ before after here acted
  exact here.on keyed acted

end ListContract

namespace ListContract.Keyed

variable {property : Property} {list : ListContract} {profile : Profile}
variable (registered : property ∈ Catalogue.standard.properties) (isList : property.contract = .list list)
  (keyed : list.isKeyed = true) (legal : profile.Legal)
  (stored : list.Keyed (profile.list property.setting property.name))
include registered keyed legal stored

theorem answers_set (writable : property.isReadOnly = false) (context : Context) (text : String) :
    (property.set context profile (.text text)).Answers property (Holding.list isList).held profile
      ((list.parseItems text).map (putAll Item.key? (profile.list property.setting property.name))) := by
  have answers := Holding.answers_set (.list isList) registered legal writable context text
  change Outcome.Answers _ _ _ _ (list.add (profile.list property.setting property.name) text) at answers
  rw [ListContract.add] at answers
  cases read : list.parseItems text with
  | error error =>
    rw [read] at answers
    exact answers
  | ok added =>
    rw [read] at answers
    have merged := merge_eq_putAll keyed stored.reads fun item => readsItem_of_parseItems read
    exact ⟨answers.1, answers.2.trans merged⟩

/-- A text that is removed, unless it is a position, takes away what its patterns fit. -/
theorem answers_remove (text : String)
    (noPosition : position? (profile.list property.setting property.name).length text = none) :
    (property.remove profile text).Answers property (Holding.list isList).held profile
      ((list.patterns text).map fun patterns =>
        (profile.list property.setting property.name).filter fun item => !patterns.any item.fits) := by
  have answers := Holding.answers_remove (.list isList) registered legal text
  change Outcome.Answers _ _ _ _ (list.remove (profile.list property.setting property.name) text) at answers
  rwa [remove_eq_filter keyed stored.reads noPosition] at answers

end ListContract.Keyed

def Contract.isKeyedList : Contract → Bool
  | .list spec => spec.isKeyed
  | _ => false

def keyedLists : List String := ["sriov.vfs", "vlan.ingress-priority-map", "vlan.egress-priority-map"]

theorem isKeyed_of_keyedLists {property : Property} (registered : property ∈ Catalogue.standard.properties)
    (keyed : property.fullName ∈ keyedLists) :
    property.isReadOnly = false ∧ ∃ list, property.contract = .list list ∧ list.isKeyed = true := by
  have all : ∀ property ∈ Catalogue.standard.properties, property.fullName ∈ keyedLists →
      property.isReadOnly = false ∧ property.contract.isKeyedList = true := by decide +kernel
  obtain ⟨writable, kind⟩ := all property registered keyed
  refine ⟨writable, ?_⟩
  generalize property.contract = contract at kind
  cases contract with
  | list list => exact ⟨list, rfl, kind⟩
  | scalar | options | special => cases kind

/-- After any run no two items of a list with keys have the same key. A text that is set is refused
and changes nothing, or gives each of its keys the last of its items and keeps all others, and what
was there stays in place. A text that is removed is refused, or takes away just the items that one of
its patterns fits. -/
theorem keyedLists_of_run {property : Property} (registered : property ∈ Catalogue.standard.properties)
    (keyed : property.fullName ∈ keyedLists) (operations : List Operation) :
    let profile := Profile.empty.after operations
    let held := profile.list property.setting property.name
    ∃ list, property.contract = .list list ∧
      (∀ item ∈ held, item.key?.isSome = true) ∧
      (held.map Item.key?).Nodup ∧
      (∀ (context : Context) (text : String),
        let outcome := property.set context profile (.text text)
        match list.parseItems text with
        | .error error =>
          outcome.error = some (error.withProperty property.name) ∧ outcome.profile = profile
        | .ok added =>
          outcome.error = none ∧
            KeyedMerge Item.key? held added (outcome.profile.list property.setting property.name)) ∧
      (∀ text, position? held.length text = none →
        let outcome := property.remove profile text
        match list.patterns text with
        | .error error =>
          outcome.error = some (error.withProperty property.name) ∧ outcome.profile = profile
        | .ok patterns =>
          outcome.error = none ∧
            outcome.profile.list property.setting property.name
              = held.filter fun item => !patterns.any item.fits) := by
  intro profile held
  obtain ⟨writable, list, isList, hasKeys⟩ := isKeyed_of_keyedLists registered keyed
  have legal : profile.Legal := (Reachable.empty.after operations).legal
  have invariant : list.Keyed held := ListContract.keyed_after registered isList hasKeys operations
  refine ⟨list, isList, ?_, invariant.distinct, ?_, ?_⟩
  · exact fun item here => ListContract.isSome_key? hasKeys (invariant.reads item here)
  · intro context text outcome
    have answers : outcome.Answers property _ profile _ :=
      invariant.answers_set registered isList hasKeys legal writable context text
    generalize list.parseItems text = read at answers ⊢
    cases read with
    | error error => exact answers
    | ok added =>
      have put : outcome.profile.list property.setting property.name = putAll Item.key? held added := answers.2
      rw [put]
      exact ⟨answers.1, keyedMerge_putAll held added⟩
  · intro text noPosition outcome
    have answers : outcome.Answers property _ profile _ :=
      invariant.answers_remove registered isList hasKeys legal text noPosition
    generalize list.patterns text = read at answers ⊢
    cases read <;> exact answers

def ingressMap : Property := Settings.vlan.properties[3]

theorem ingressMap_mem : ingressMap ∈ Catalogue.standard.properties := by decide +kernel

/-- The entry for three changes in its place, twice, and goes with a pattern that leaves the right side
open; the one for one stays, since the pattern for it has another right side. -/
theorem keyedLists_of_run_ingress :
    let profile := Profile.empty.after [.assign ingressMap ingressMap_mem "1:2,3:4"]
    let entry (source target : UInt32) := Item.priority ⟨source, some target⟩
    let changed := ingressMap.set { catalogue := .standard, freshUuid := ⟨0⟩ } profile (.text "3:5,0:9,3:7")
    let reduced := ingressMap.remove profile "3:*,1:5"
    profile.list "vlan" "ingress-priority-map" = [entry 1 2, entry 3 4] ∧
      KeyedMerge Item.key? [entry 1 2, entry 3 4] [entry 3 5, entry 0 9, entry 3 7]
        (changed.profile.list "vlan" "ingress-priority-map") ∧
      changed.profile.list "vlan" "ingress-priority-map" = [entry 1 2, entry 3 7, entry 0 9] ∧
      reduced.profile.list "vlan" "ingress-priority-map" = [entry 1 2] := by
  intro profile entry changed reduced
  have held : profile.list "vlan" "ingress-priority-map" = [entry 1 2, entry 3 4] := by decide +kernel
  obtain ⟨list, isList, -, -, set, remove⟩ := keyedLists_of_run ingressMap_mem (by decide +kernel)
    [.assign ingressMap ingressMap_mem "1:2,3:4"]
  obtain rfl : ⟨.priority .ingress, commaOnly, .append, []⟩ = list := Contract.list.inj isList
  have read : ListContract.parseItems ⟨.priority .ingress, commaOnly, .append, []⟩ "3:5,0:9,3:7"
      = .ok [entry 3 5, entry 0 9, entry 3 7] := by decide +kernel
  have asked : ListContract.patterns ⟨.priority .ingress, commaOnly, .append, []⟩ "3:*,1:5"
      = .ok [.priority ⟨3, none⟩, entry 1 5] := by decide +kernel
  have setNow := set { catalogue := .standard, freshUuid := ⟨0⟩ } "3:5,0:9,3:7"
  have removeNow := remove "3:*,1:5" (by decide +kernel)
  rw [read] at setNow
  rw [asked] at removeNow
  change _ ∧ KeyedMerge Item.key? (profile.list "vlan" "ingress-priority-map") _ _ at setNow
  change _ ∧ _ = (profile.list "vlan" "ingress-priority-map").filter _ at removeNow
  rw [held] at setNow removeNow
  exact ⟨held, setNow.2, by decide +kernel, removeNow.2⟩

end NetProfile
