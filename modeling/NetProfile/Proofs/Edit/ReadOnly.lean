import NetProfile.Proofs.Edit.Footprint

/-!
Read-only properties. Setting one is refused whatever it is set to, and there is nothing to take from
a single value. Items of a list, however, are taken away although the list is read-only: a run of
operations leaves some of the items, in their order.
-/

namespace NetProfile

theorem sublist_of_removeOne {α : Type} [DecidableEq α] {read : String → Except Error α} {held left : List α}
    {text : String} (removed : removeOne read held text = .ok left) : left.Sublist held := by
  unfold removeOne at removed
  split at removed
  · cases removed
    exact List.eraseIdx_sublist ..
  · obtain ⟨value, -, removed⟩ := Reading.bind_eq_ok removed
    cases removed
    exact List.erase_sublist

theorem sublist_of_filterMap {α β : Type} {part? : α → Option β} {whole : β → α}
    (inverse : ∀ item part, part? item = some part → whole part = item) (items : List α) :
    ((items.filterMap part?).map whole).Sublist items := by
  induction items with
  | nil => exact .refl _
  | cons item items ih =>
    rw [List.filterMap_cons]
    split
    · exact ih.cons item
    · next part found =>
      rw [List.map_cons, inverse item part found]
      exact ih.cons_cons item

theorem PriorityMap.sublist_of_remove {direction : Direction} {held left : List PriorityEntry} {text : String}
    (removed : remove direction held text = .ok left) : left.Sublist held := by
  unfold remove at removed
  split at removed
  · cases removed
    exact List.eraseIdx_sublist ..
  · obtain ⟨patterns, -, removed⟩ := Reading.bind_eq_ok removed
    cases removed
    exact List.filter_sublist

theorem VirtualFunction.sublist_of_remove {held left : List VirtualFunction} {text : String}
    (removed : remove held text = .ok left) : left.Sublist held := by
  unfold remove at removed
  split at removed
  · cases removed
    exact List.eraseIdx_sublist ..
  · obtain ⟨written, -, removed⟩ := Reading.bind_eq_ok removed
    cases removed
    exact List.filter_sublist

theorem ListContract.sublist_of_remove {list : ListContract} {held left : List Item} {text : String}
    (removed : list.remove held text = .ok left) : left.Sublist held := by
  unfold remove at removed
  split at removed
  · obtain ⟨entries, entriesLeft, rfl⟩ := Reading.map_eq_ok removed
    refine ((PriorityMap.sublist_of_remove entriesLeft).map _).trans (sublist_of_filterMap ?_ held)
    intro item entry found
    cases item <;> cases found
    rfl
  · obtain ⟨functions, functionsLeft, rfl⟩ := Reading.map_eq_ok removed
    refine ((VirtualFunction.sublist_of_remove functionsLeft).map _).trans (sublist_of_filterMap ?_ held)
    intro item function found
    cases item <;> cases found
    rfl
  · exact sublist_of_removeOne removed

def Action.sets : Action → Bool
  | .set .. => true
  | .remove _ => false

namespace Operation

variable {operation : Operation}

theorem profile_set_readOnly (readOnly : operation.property.isReadOnly = true)
    (sets : operation.action.sets = true) (profile : Profile) : (operation.perform profile).profile = profile := by
  obtain ⟨property, registered, action⟩ := operation
  replace readOnly : property.isReadOnly = true := readOnly
  cases action with
  | remove => cases sets
  | set context standard assignment =>
    cases assignment with
    | unchanged => rfl
    | reset | text =>
      simp only [perform, Property.set, readOnly, if_true]
      rfl

theorem profile_readOnly_single (readOnly : operation.property.isReadOnly = true) {scalar : Scalar}
    (single : operation.property.contract = .scalar scalar) (profile : Profile) :
    (operation.perform profile).profile = profile := by
  cases sets : operation.action.sets with
  | true => exact profile_set_readOnly readOnly sets profile
  | false =>
    obtain ⟨property, registered, action⟩ := operation
    replace single : property.contract = .scalar scalar := single
    cases action with
    | set => cases sets
    | remove text =>
      simp only [perform, Property.remove, Plan.removing, single]
      rfl

theorem sublist_remove {list : ListContract} (isList : operation.property.contract = .list list)
    (removes : operation.action.sets = false) (profile : Profile) :
    let setting := operation.property.setting
    let key := operation.property.name
    ((operation.perform profile).profile.list setting key).Sublist (profile.list setting key) := by
  obtain ⟨property, registered, action⟩ := operation
  replace isList : property.contract = .list list := isList
  intro setting key
  cases action with
  | set => cases removes
  | remove text =>
    rw [profile_perform]
    simp only [moves, plan, Plan.removing, isList]
    cases removed : list.remove (profile.list property.setting property.name) text with
    | error error => exact .refl _
    | ok left =>
      have fewer := ListContract.sublist_of_remove removed
      have made : (profile.changeAll (Plan.putting property (.list left)).changes).1
          = (profile.write setting key (.list left)).1 := by
        simp only [Plan.putting, Profile.changeAll, Profile.change]
        split <;> next written => rw [written]
      show ((profile.changeAll (Plan.putting property (.list left)).changes).1.list setting key).Sublist _
      rw [made]
      -- a field of another kind refuses the list, and then everything stays
      rcases Profile.write_cases profile setting key (.list left) with put | ⟨error, refused⟩
      · rw [put]
        simpa [Profile.list, Profile.get?_put, Value.list?] using fewer
      · rw [refused]

end Operation

namespace Profile

theorem after_eq_self {operations : List Operation}
    (still : ∀ operation ∈ operations, ∀ profile, (operation.perform profile).profile = profile)
    (profile : Profile) : profile.after operations = profile := by
  apply after_invariant (fun after => after = profile) ?_ rfl
  intro before operation here same
  rw [still operation here before]
  exact same

theorem list_after_sublist {setting key : String} {operations : List Operation}
    (fewer : ∀ operation ∈ operations, ∀ profile : Profile,
      ((operation.perform profile).profile.list setting key).Sublist (profile.list setting key))
    (profile : Profile) : ((profile.after operations).list setting key).Sublist (profile.list setting key) := by
  apply after_invariant (fun after => (after.list setting key).Sublist (profile.list setting key)) ?_ (.refl _)
  intro before operation here left
  exact (fewer operation here before).trans left

theorem get?_after {setting key : String} {operations : List Operation}
    (spared : ∀ operation ∈ operations, ¬operation.property.Uses setting key) (profile : Profile) :
    (profile.after operations).get? setting key = profile.get? setting key := by
  apply after_invariant (fun after => after.get? setting key = profile.get? setting key) ?_ rfl
  intro before operation here same
  rw [Operation.get?_perform (spared operation here) before]
  exact same

/-- No run of operations on a read-only property changes any other field or makes a list longer. It
changes nothing at all if the property is only set, or if it is another one than the list of the
networks seen. -/
theorem after_readOnly (profile : Profile) {property : Property}
    (registered : property ∈ Catalogue.standard.properties) (readOnly : property.isReadOnly = true)
    {operations : List Operation} (own : ∀ operation ∈ operations, operation.property = property) :
    let after := profile.after operations
    (∀ setting key, ¬(setting = property.setting ∧ key = property.name) →
      after.get? setting key = profile.get? setting key) ∧
    (after.list property.setting property.name).Sublist (profile.list property.setting property.name) ∧
    ((∀ operation ∈ operations, operation.action.sets = true) → after = profile) ∧
    (property.fullName ≠ "802-11-wireless.seen-bssids" → after = profile) := by
  intro after
  have onlySet : (∀ operation ∈ operations, operation.action.sets = true) → after = profile := by
    intro sets
    refine after_eq_self (fun operation here => ?_) profile
    exact Operation.profile_set_readOnly ((own operation here).symm ▸ readOnly) (sets operation here)
  rcases Catalogue.contract_of_readOnly registered readOnly with ⟨scalar, single⟩ | ⟨seen, list, isList⟩
  · have still : after = profile := by
      refine after_eq_self (fun operation here => ?_) profile
      have same := own operation here
      exact Operation.profile_readOnly_single (same.symm ▸ readOnly) (same.symm ▸ single)
    rw [still]
    exact ⟨fun _ _ _ => rfl, .refl _, fun _ => rfl, fun _ => rfl⟩
  · refine ⟨fun setting key other => ?_, ?_, onlySet, fun notSeen => absurd seen notSeen⟩
    · refine get?_after (fun operation here uses => other ?_) profile
      rw [own operation here] at uses
      obtain ⟨place, name⟩ := uses
      simp only [Property.used, Property.looked, isList, List.mem_cons, List.not_mem_nil, or_false, or_self] at name
      exact ⟨place, name⟩
    · refine list_after_sublist (fun operation here before => ?_) profile
      have same := own operation here
      subst same
      cases sets : operation.action.sets with
      | true => rw [Operation.profile_set_readOnly readOnly sets before]
      | false => exact Operation.sublist_remove isList sets before

end Profile

def Property.seenNetworks : Property := Settings.wifi.properties[13]

namespace Operation

def setSeen (text : String) : Operation := .assign .seenNetworks (by decide +kernel) text

def removeSeen (text : String) : Operation where
  property := .seenNetworks
  registered := by decide +kernel
  action := .remove text

end Operation

namespace Profile

def withSeen (networks : List String) : Profile :=
  empty.put "802-11-wireless" "seen-bssids" (.list (networks.map .text))

/-- The first of two networks is taken away by its position, and the name of the network stays. -/
theorem after_readOnly_seen :
    let profile := (withSeen ["00:11:22:33:44:55", "66:77:88:99:AA:BB"]).put "802-11-wireless" "ssid"
      (.octets (some [104, 105]))
    let after := profile.after [.setSeen "", .removeSeen "0"]
    after.list "802-11-wireless" "seen-bssids" = [.text "66:77:88:99:AA:BB"] ∧
      (after.list "802-11-wireless" "seen-bssids").Sublist (profile.list "802-11-wireless" "seen-bssids") ∧
      after.get? "802-11-wireless" "ssid" = some (.octets (some [104, 105])) := by
  intro profile after
  have registered : Property.seenNetworks ∈ Catalogue.standard.properties := by decide +kernel
  have own : ∀ operation ∈ [Operation.setSeen "", .removeSeen "0"], operation.property = .seenNetworks := by
    simp [Operation.setSeen, Operation.removeSeen, Operation.assign]
  obtain ⟨others, fewer, -⟩ := after_readOnly profile registered (by decide +kernel) own
  have name := others "802-11-wireless" "ssid" (by decide +kernel)
  exact ⟨by decide +kernel, fewer, name.trans (by decide +kernel)⟩

/-- A read-only property can change: no text is set, but what is listed can be taken away. -/
theorem seen_removed :
    let profile := withSeen ["00:11:22:33:44:55"]
    Property.seenNetworks ∈ Catalogue.standard.properties ∧ Property.seenNetworks.isReadOnly = true ∧
      ((Operation.setSeen "").perform profile).error
        = some { cause := .immutable (.readOnly "seen-bssids"), owner := some "seen-bssids" } ∧
      ((Operation.removeSeen "0").perform profile).error = none ∧
      profile.after [.removeSeen "0"] = withSeen [] ∧ withSeen [] ≠ profile := by
  decide +kernel

end Profile

end NetProfile
