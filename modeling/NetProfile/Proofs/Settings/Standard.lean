import Mathlib.Data.List.Nodup
import NetProfile.Proofs.Contract.Admits
import NetProfile.Settings.Standard

/-!
What the edits rely on in the standard catalogue. It is checked once over all the settings and their
properties; what is proved of edits uses the catalogue through the lemmas of this module only.
-/

namespace NetProfile

def wirelessSecurity : String := "802-11-wireless-security"

@[mk_iff]
structure Property.Regular (property : Property) : Prop where
  named : property.name ≠ ""
  sound : property.contract.Sound
  /-- A default of its own has the kind of the one that the contract gives. -/
  usual : property.default.kind = property.contract.default.kind
  type : property.contract = .special .connectionType ↔
    property.setting = "connection" ∧ property.name = "type"
  wepKey : ∀ slot, property.contract = .special (.wepKey slot) → property.setting = wirelessSecurity

instance (property : Property) : Decidable property.Regular :=
  decidable_of_iff _ (Property.regular_iff property).symm

@[mk_iff]
structure Catalogue.Regular (catalogue : Catalogue) : Prop where
  settingNames : (catalogue.settings.map Setting.name).Nodup
  propertyNames : ∀ setting ∈ catalogue.settings, (setting.properties.map Property.name).Nodup
  owners : ∀ setting ∈ catalogue.settings, ∀ property ∈ setting.properties,
    property.setting = setting.name
  properties : ∀ property ∈ catalogue.properties, property.Regular
  types : ∀ name ∈ catalogue.typeNames, (catalogue.setting name).toOption.any Setting.isType = true
  uuid : ∃ property ∈ catalogue.properties, property.setting = "connection" ∧
    property.name = "uuid" ∧ property.contract = .scalar (.checked .uuid) ∧
    property.isReadOnly = true
  wepKeyType : ∃ property ∈ catalogue.properties, property.setting = wirelessSecurity ∧
    property.name = "wep-key-type" ∧ property.contract = .scalar (.wepKeyType Settings.wepKeyType)
  wepIndex : ∃ property ∈ catalogue.properties, property.setting = wirelessSecurity ∧
    property.name = "wep-tx-keyidx" ∧ property.contract
      = .scalar (.integer { width := .uint32, least := some 0, greatest := some 3 })

instance (catalogue : Catalogue) : Decidable catalogue.Regular :=
  decidable_of_iff _ (Catalogue.regular_iff catalogue).symm

namespace Contract

def switch? : Contract → Option String
  | .scalar (.slots _ switch) => some switch
  | _ => none

def list? : Contract → Option ListContract
  | .list kind => some kind
  | _ => none

def isWepKeyType : Contract → Bool
  | .scalar (.wepKeyType _) => true
  | _ => false

/-- Single values, WEP keys and the options of VPN plugins. -/
def mayBeSecret : Contract → Bool
  | .scalar _ | .options _ | .special (.wepKey _) => true
  | _ => false

end Contract

@[mk_iff]
structure Property.Consistent (property : Property) : Prop where
  /-- The WEP keys are called after their slots. -/
  slotName : ∀ slot : Fin 4, property.contract = .special (.wepKey slot) →
    WepKey.slotNames[slot]? = some property.name
  wepKey : property.setting = wirelessSecurity → property.name ∈ WepKey.slotNames →
    ∃ slot, property.contract = .special (.wepKey slot)
  wepKeyType : property.contract.isWepKeyType = true →
    property.setting = wirelessSecurity ∧ property.name = "wep-key-type"
  /-- All lists are cut at commas, whether blanks separate their items or not. -/
  commas : (property.contract.list?.all fun list => decide (',' ∈ list.separators)) = true
  readOnly : property.isReadOnly = true →
    (match property.contract with
      | .scalar _ => true
      | .list _ => property.fullName = "802-11-wireless.seen-bssids"
      | .options _ | .special _ => false) = true
  secret : property.isSecret = true → property.contract.mayBeSecret = true

instance (property : Property) : Decidable property.Consistent :=
  decidable_of_iff _ (Property.consistent_iff property).symm

namespace Catalogue

theorem checked_standard : standard.Regular ∧ (∀ property ∈ standard.properties, property.Consistent) ∧
    (∀ setting ∈ standard.settings, ∀ other ∈ standard.settings,
      other.isCalled setting.name = true → other.name = setting.name) ∧
    ∀ property ∈ standard.properties,
      property.contract.isDefault property.default property.default = true := by
  decide +kernel

theorem regular_standard : standard.Regular := checked_standard.1

theorem property_unique {p q : Property} (pHere : p ∈ standard.properties)
    (qHere : q ∈ standard.properties) (sameSetting : p.setting = q.setting) (sameName : p.name = q.name) :
    p = q := by
  obtain ⟨pSetting, pSettingHere, pInside⟩ := List.mem_flatMap.1 pHere
  obtain ⟨qSetting, qSettingHere, qInside⟩ := List.mem_flatMap.1 qHere
  have owners : pSetting.name = qSetting.name := by
    rw [← regular_standard.owners pSetting pSettingHere p pInside, sameSetting]
    exact regular_standard.owners qSetting qSettingHere q qInside
  have one := List.inj_on_of_nodup_map regular_standard.settingNames pSettingHere qSettingHere owners
  subst one
  have names := regular_standard.propertyNames pSetting pSettingHere
  exact List.inj_on_of_nodup_map names pInside qInside sameName

/-- The name of a setting is nobody else's name, be it full or short. -/
theorem setting_of_isCalled : ∀ setting ∈ standard.settings, ∀ other ∈ standard.settings,
    other.isCalled setting.name = true → other.name = setting.name := checked_standard.2.2.1

theorem setting_of_mem {setting : Setting} (registered : setting ∈ standard.settings) :
    standard.setting setting.name = .ok setting := by
  unfold Catalogue.setting
  split
  · next found located =>
    have here := List.mem_of_find?_eq_some located
    have called : found.isCalled setting.name = true := by simpa using List.find?_some located
    have sameName := setting_of_isCalled setting registered found here called
    rw [List.inj_on_of_nodup_map regular_standard.settingNames here registered sameName]
  · next absent =>
    exact absurd (by simp [Setting.isCalled]) (List.find?_eq_none.1 absent setting registered)

/-- A registered property is found by the names of its setting and of itself. -/
theorem property_of_mem {property : Property} (registered : property ∈ standard.properties) :
    standard.property property.setting property.name = .ok property := by
  obtain ⟨setting, settingHere, inside⟩ := List.mem_flatMap.1 registered
  rw [regular_standard.owners setting settingHere property inside, Catalogue.property,
    setting_of_mem settingHere]
  show setting.property property.name = .ok property
  unfold Setting.property
  split
  · next found located =>
    have called : found.name = property.name := by simpa using List.find?_some located
    rw [List.inj_on_of_nodup_map (regular_standard.propertyNames setting settingHere)
      (List.mem_of_find?_eq_some located) inside called]
  · next absent =>
    exact absurd (by simp) (List.find?_eq_none.1 absent property inside)

theorem regular_of_mem {property : Property} (registered : property ∈ standard.properties) :
    property.Regular := regular_standard.properties property registered

theorem consistent_of_mem : ∀ property ∈ standard.properties, property.Consistent := checked_standard.2.1

/-- Whatever is added to a catalogue, a default has to pass for one. -/
theorem isDefault_default : ∀ property ∈ standard.properties,
    property.contract.isDefault property.default property.default = true := checked_standard.2.2.2

theorem uuid_of_name {property : Property} (registered : property ∈ standard.properties)
    (place : property.setting = "connection") (name : property.name = "uuid") :
    property.contract = .scalar (.checked .uuid) ∧ property.isReadOnly = true := by
  obtain ⟨owner, known, sameSetting, sameName, contract, readOnly⟩ := regular_standard.uuid
  rw [property_unique registered known (place.trans sameSetting.symm) (name.trans sameName.symm)]
  exact ⟨contract, readOnly⟩

theorem wepKeyType_of_name {property : Property} (registered : property ∈ standard.properties)
    (place : property.setting = wirelessSecurity) (name : property.name = "wep-key-type") :
    property.contract = .scalar (.wepKeyType Settings.wepKeyType) := by
  obtain ⟨owner, known, sameSetting, sameName, contract⟩ := regular_standard.wepKeyType
  rw [property_unique registered known (place.trans sameSetting.symm) (name.trans sameName.symm)]
  exact contract

theorem slotName_of_wepKey (property : Property) (registered : property ∈ standard.properties) (slot : Fin 4)
    (isKey : property.contract = .special (.wepKey slot)) : WepKey.slotNames[slot]? = some property.name :=
  (consistent_of_mem property registered).slotName slot isKey

theorem wepKey_of_slotName {property : Property} (registered : property ∈ standard.properties)
    (place : property.setting = wirelessSecurity) (name : property.name ∈ WepKey.slotNames) :
    ∃ slot, property.contract = .special (.wepKey slot) :=
  (consistent_of_mem property registered).wepKey place name

theorem place_of_wepKeyType (property : Property) (registered : property ∈ standard.properties)
    (isType : property.contract.isWepKeyType = true) :
    property.setting = wirelessSecurity ∧ property.name = "wep-key-type" :=
  (consistent_of_mem property registered).wepKeyType isType

theorem setting_of_typeName {word : String} (known : word ∈ standard.typeNames) :
    ∃ setting ∈ standard.types, standard.setting word = .ok setting := by
  have isType := regular_standard.types word known
  cases found : standard.setting word with
  | error error =>
    rw [found] at isType
    cases isType
  | ok setting =>
    rw [found] at isType
    refine ⟨setting, ?_, rfl⟩
    unfold Catalogue.setting at found
    split at found
    next other located =>
      cases found
      exact List.mem_filter.2 ⟨List.mem_of_find?_eq_some located, isType⟩
    next => cases found

theorem comma_mem_separators {property : Property} (registered : property ∈ standard.properties)
    {list : ListContract} (isList : property.contract = .list list) : ',' ∈ list.separators := by
  have cut := (consistent_of_mem property registered).commas
  rw [isList] at cut
  exact of_decide_eq_true cut

/-- Read-only properties hold single values, but for the one that lists the networks seen. -/
theorem contract_of_readOnly {property : Property} (registered : property ∈ standard.properties)
    (readOnly : property.isReadOnly = true) :
    (∃ scalar, property.contract = .scalar scalar) ∨
      property.fullName = "802-11-wireless.seen-bssids" ∧ ∃ list, property.contract = .list list := by
  have known := (consistent_of_mem property registered).readOnly readOnly
  cases contract : property.contract with
  | scalar scalar => exact .inl ⟨scalar, rfl⟩
  | list list =>
    rw [contract] at known
    exact .inr ⟨of_decide_eq_true known, list, rfl⟩
  | options | special =>
    rw [contract] at known
    cases known

theorem writable_of_special {property : Property} (registered : property ∈ standard.properties)
    {special : Special} (isSpecial : property.contract = .special special) : property.isReadOnly = false := by
  refine Bool.eq_false_iff.2 fun readOnly => ?_
  rcases contract_of_readOnly registered readOnly with ⟨scalar, single⟩ | ⟨-, list, isList⟩
  · rw [isSpecial] at single
    cases single
  · rw [isSpecial] at isList
    cases isList

def IsSecretField (setting key : String) : Prop :=
  ∃ property ∈ standard.properties,
    property.isSecret = true ∧ property.setting = setting ∧ property.name = key

instance (setting key : String) : Decidable (IsSecretField setting key) :=
  inferInstanceAs (Decidable (∃ property ∈ standard.properties, _))

theorem isSecret_of_isSecretField {property : Property} (registered : property ∈ standard.properties)
    (secret : IsSecretField property.setting property.name) : property.isSecret = true := by
  obtain ⟨owner, known, isSecret, sameSetting, sameName⟩ := secret
  rwa [property_unique registered known sameSetting.symm sameName.symm]

theorem isSecret_of_mem {property : Property} (registered : property ∈ standard.properties) :
    standard.isSecret property.setting property.name = property.isSecret := by
  rw [Catalogue.isSecret, property_of_mem registered]

/-- The fields that other properties look at, the type of masters among them, are no secrets. -/
theorem companions_public : ¬IsSecretField "connection" "uuid" ∧ ¬IsSecretField "connection" "slave-type" ∧
    ¬IsSecretField wirelessSecurity "wep-key-type" ∧ ¬IsSecretField wirelessSecurity "wep-tx-keyidx" := by
  decide +kernel

theorem switch_public {property : Property} (registered : property ∈ standard.properties)
    {switch : String} (slots : property.contract.switch? = some switch) :
    ¬IsSecretField property.setting switch := by
  have checked : ∀ property ∈ standard.properties,
      (property.contract.switch?.all fun switch => decide ¬IsSecretField property.setting switch) = true := by
    decide +kernel
  have notSecret := checked property registered
  rw [slots] at notSecret
  exact of_decide_eq_true notSecret

theorem not_isSecret {property : Property} (registered : property ∈ standard.properties)
    (never : property.contract.mayBeSecret = false) : property.isSecret = false := by
  refine Bool.eq_false_iff.2 fun secret => ?_
  rw [(consistent_of_mem property registered).secret secret] at never
  cases never

end Catalogue

end NetProfile
