import NetProfile.Proofs.Edit.Effect
import NetProfile.Proofs.Profile.Commute

/-!
Footprints of operations. The keys that a property looks at decide what its operations change, and
the keys that it uses are all that they can change. A list grows from what it holds; a type looks at
the identifier, and a WEP key at the type and the index of all WEP keys.
-/

namespace NetProfile

namespace Property

def looked (property : Property) : List String :=
  match property.contract with
  | .list _ | .options _ | .special .dnsOptions => [property.name]
  | .special .connectionType => ["uuid"]
  | .special (.wepKey _) => ["wep-key-type", "wep-tx-keyidx"]
  | _ => []

/-- The keys that they change, and those that they look at. Nothing changes a single value that is
read-only. -/
def used (property : Property) : List String :=
  match property.contract with
  | .scalar _ => if property.isReadOnly then [] else [property.name]
  | _ => property.name :: property.looked

def Uses (property : Property) (setting key : String) : Prop :=
  setting = property.setting ∧ key ∈ property.used

theorem mem_used_of_looked {property : Property} {key : String} (here : key ∈ property.looked) :
    key ∈ property.used := by
  unfold used
  split
  · next scalar isScalar =>
    rw [looked, isScalar] at here
    cases here
  · exact List.mem_cons_of_mem _ here

theorem uses_own {property : Property}
    (writable : ∀ scalar, property.contract = .scalar scalar → property.isReadOnly = false) :
    property.Uses property.setting property.name := by
  refine ⟨rfl, ?_⟩
  unfold used
  split
  · next scalar isScalar => simp [writable scalar isScalar]
  · exact List.mem_cons_self

end Property

def Profile.AgreeFor (property : Property) (left right : Profile) : Prop :=
  ∀ key ∈ property.looked, left.get? property.setting key = right.get? property.setting key

namespace Plan

variable {context : Context} {property : Property} {left right : Profile} {text : String}

theorem changes_settingScalar (property : Property) (scalar : Scalar) (profile : Profile) (text : String) :
    (settingScalar property scalar profile text).map changes =
      (scalar.parse text).map fun value => (putting property value).changes := by
  unfold settingScalar
  cases scalar.parse text with
  | error error => rfl
  | ok value =>
    show Except.ok _ = Except.ok _
    congr 1
    split <;> rfl

theorem checkTypeFree_congr
    (same : left.get? property.setting "uuid" = right.get? property.setting "uuid") :
    checkTypeFree property left = checkTypeFree property right := by
  unfold checkTypeFree Profile.text?
  rw [same]

theorem settingSpecial_congr {special : Special} (isSpecial : property.contract = .special special)
    (agree : left.AgreeFor property right) :
    settingSpecial context property special left text = settingSpecial context property special right text := by
  cases special with
  | connectionType =>
    have uuid := agree "uuid" (by simp [Property.looked, isSpecial])
    simp only [settingSpecial, settingType, checkTypeFree_congr uuid]
  | wepKey slot =>
    have number : ∀ key ∈ property.looked,
        left.int? property.setting key = right.int? property.setting key := fun key here =>
      congrArg (Option.bind · Value.int?) (agree key here)
    have type := number "wep-key-type" (by simp [Property.looked, isSpecial])
    have index := number "wep-tx-keyidx" (by simp [Property.looked, isSpecial])
    show settingWepKey property slot left text = settingWepKey property slot right text
    unfold settingWepKey
    rw [type, index]
  | dnsOptions =>
    have own := agree property.name (by simp [Property.looked, isSpecial])
    simp only [settingSpecial, Profile.dnsOptions, own]
  | partitionKey | wifiChannel | networkName => rfl

theorem setting_congr (notScalar : ∀ scalar, property.contract ≠ .scalar scalar)
    (agree : left.AgreeFor property right) :
    setting context property left text = setting context property right text := by
  unfold setting
  split
  · next scalar isScalar => exact absurd isScalar (notScalar scalar)
  · next list isList =>
    have own := agree property.name (by simp [Property.looked, isList])
    simp only [Profile.list, own]
  · next spec isMap =>
    have own := agree property.name (by simp [Property.looked, isMap])
    simp only [Profile.map, own]
  · next special isSpecial => exact settingSpecial_congr isSpecial agree

theorem changes_setting_congr (agree : left.AgreeFor property right) :
    (setting context property left text).map changes = (setting context property right text).map changes := by
  by_cases isScalar : ∃ scalar, property.contract = .scalar scalar
  · obtain ⟨scalar, isScalar⟩ := isScalar
    simp only [setting, isScalar, changes_settingScalar]
  · rw [setting_congr (fun scalar same => isScalar ⟨scalar, same⟩) agree]

theorem removing_congr (agree : left.AgreeFor property right) :
    removing property left text = removing property right text := by
  unfold removing
  split
  · next list isList =>
    have own := agree property.name (by simp [Property.looked, isList])
    simp only [Profile.list, own]
  · next spec isMap =>
    have own := agree property.name (by simp [Property.looked, isMap])
    simp only [Profile.map, own]
  · next isDns =>
    have own := agree property.name (by simp [Property.looked, isDns])
    simp only [Profile.dnsOptions, own]
  · rfl

theorem resetting_congr (agree : left.AgreeFor property right) :
    resetting property left = resetting property right := by
  unfold resetting
  split
  · next isType =>
    have uuid := agree "uuid" (by simp [Property.looked, isType])
    rw [checkTypeFree_congr uuid]
  · rfl

end Plan

theorem Effect.uses {property : Property} {profile : Profile} {changes : List Change}
    (effect : Effect property profile changes) {change : Change} (here : change ∈ changes)
    {setting key : String} (touched : change.Touches setting key) : property.Uses setting key := by
  cases effect with
  | nothing => cases here
  | reset writable free =>
    cases List.mem_singleton.1 here
    obtain ⟨rfl, rfl⟩ := touched
    exact Property.uses_own fun _ _ => writable
  | put value notType writable reads =>
    cases List.mem_singleton.1 here
    obtain ⟨rfl, rfl⟩ := touched
    exact Property.uses_own writable
  | type type uuid isType free known =>
    rcases Property.mem_typeChanges here with rfl | rfl | ⟨part, rfl⟩
    · obtain ⟨rfl, rfl⟩ := touched
      exact Property.uses_own (by simp [isType])
    · obtain ⟨rfl, rfl⟩ := touched
      exact ⟨rfl, Property.mem_used_of_looked (by simp [Property.looked, isType])⟩
    · exact touched.elim
  | wepKey slot text type moved isKey fits known =>
    rcases Property.mem_wepKeyChanges here with rfl | rfl | rfl <;> obtain ⟨rfl, rfl⟩ := touched
    · exact Property.uses_own (by simp [isKey])
    · exact ⟨rfl, Property.mem_used_of_looked (by simp [Property.looked, isKey])⟩
    · exact ⟨rfl, Property.mem_used_of_looked (by simp [Property.looked, isKey])⟩

namespace Operation

def moves (operation : Operation) (profile : Profile) : Except Error (List Change) :=
  (operation.plan profile).map Plan.changes

theorem profile_perform (operation : Operation) (profile : Profile) :
    (operation.perform profile).profile = match operation.moves profile with
      | .error _ => profile
      | .ok changes => (profile.changeAll changes).1 := by
  rw [perform_eq_carryOut, moves]
  cases operation.plan profile with
  | error error => rfl
  | ok plan =>
    simp only [Property.carryOut, Plan.run, Except.map]
    split <;> next made => rw [made]

theorem error_perform (operation : Operation) (profile : Profile) :
    (operation.perform profile).error = match operation.moves profile with
      | .error error => some (error.withProperty operation.property.name)
      | .ok changes => (profile.changeAll changes).2.map (·.withProperty operation.property.name) := by
  rw [perform_eq_carryOut, moves]
  cases operation.plan profile with
  | error error => rfl
  | ok plan =>
    simp only [Property.carryOut, Plan.run, Except.map]
    split <;> next made => rw [made]

theorem moves_congr {operation : Operation} {left right : Profile}
    (agree : left.AgreeFor operation.property right) : operation.moves left = operation.moves right := by
  obtain ⟨property, registered, action⟩ := operation
  unfold moves plan
  cases action with
  | remove text => simp only [Plan.removing_congr agree]
  | set context standard assignment =>
    cases assignment with
    | unchanged => rfl
    | reset => simp only [Plan.resetting_congr agree]
    | text text =>
      simp only
      split
      · rfl
      · exact Plan.changes_setting_congr agree

theorem uses_of_moves {operation : Operation} {profile : Profile} {changes : List Change}
    (moved : operation.moves profile = .ok changes) {change : Change} (here : change ∈ changes)
    {setting key : String} (touched : change.Touches setting key) :
    operation.property.Uses setting key := by
  obtain ⟨plan, planned, rfl⟩ := Reading.map_eq_ok moved
  exact (effect_of_plan planned).uses here touched

theorem get?_perform {operation : Operation} {setting key : String}
    (spared : ¬operation.property.Uses setting key) (profile : Profile) :
    (operation.perform profile).profile.get? setting key = profile.get? setting key := by
  rw [profile_perform]
  cases moved : operation.moves profile with
  | error error => rfl
  | ok changes =>
    exact Profile.get?_changeAll (fun change here touched => spared (uses_of_moves moved here touched)) profile

end Operation

end NetProfile
