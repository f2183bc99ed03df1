import NetProfile.Proofs.Edit.Companions

/-!
The type of the WEP keys. It changes when it is set, and when a key is set while there is no type.
Setting it warns of the stored keys that do not fit; a key that is taken for a key as it stands, in
contrast, says nothing of passphrases that are stored besides it.
-/

namespace NetProfile

def Profile.wepKeyType (profile : Profile) : WepKeyType :=
  .ofNumber ((profile.int? wirelessSecurity "wep-key-type").getD 0)

def Profile.Misfits (profile : Profile) (slot : String) (type : WepKeyType) : Prop :=
  ∃ key, profile.text? wirelessSecurity slot = some key ∧ WepKey.fits key type = false

theorem WepKey.fits_passphrase {key : String} (fits : WepKey.fits key .key = true) :
    WepKey.fits key .passphrase = true := by
  have lengths : Text.byteLength key = 10 ∨ Text.byteLength key = 26 ∨
      Text.byteLength key = 5 ∨ Text.byteLength key = 13 := by
    simp only [WepKey.fits, isHexKey, isAsciiKey, Bool.or_eq_true, Bool.and_eq_true, beq_iff_eq] at fits
    omega
  have nonempty : key ≠ "" := by
    rintro rfl
    revert lengths
    decide
  have short : Text.byteLength key ≤ 64 := by omega
  simp [WepKey.fits, isPassphrase, nonempty, short]

theorem Profile.Legal.not_misfits_passphrase {profile : Profile} (legal : profile.Legal) {slot : String}
    (isSlot : slot ∈ WepKey.slotNames) : ¬profile.Misfits slot .passphrase := by
  rintro ⟨key, stored, misfit⟩
  obtain ⟨value, held, isText⟩ := Option.bind_eq_some_iff.1 stored
  obtain ⟨property, registered, place, name, reads⟩ := legal _ _ value held
  obtain ⟨_, isKey⟩ := Catalogue.wepKey_of_slotName registered place (name ▸ isSlot)
  rw [isKey] at reads
  cases value <;> cases isText
  have fits : WepKey.fits key .passphrase = true := reads.elim WepKey.fits_passphrase id
  rw [misfit] at fits
  cases fits

namespace Plan

variable {property : Property} {profile : Profile} {text : String} {plan : Plan}

theorem mem_keysRuledOut {slot : String} {number : Int64} (isSlot : slot ∈ WepKey.slotNames)
    (known : WepKeyType.ofNumber number ≠ .unknown) :
    .keyRuledOut slot (.ofNumber number) ∈ keysRuledOut profile wirelessSecurity number ↔
      profile.Misfits slot (.ofNumber number) := by
  have inRange : 0 ≤ number ∧ number ≤ 2 := by
    unfold WepKeyType.ofNumber at known
    split at known
    · next one => subst one; decide
    · split at known
      · next two => subst two; decide
      · exact absurd rfl known
  simp only [keysRuledOut, if_pos inRange, List.mem_filterMap]
  constructor
  · rintro ⟨other, -, said⟩
    split at said
    · next key stored =>
      split at said
      · cases said
      · next misfit =>
        cases said
        exact ⟨key, stored, by simpa using misfit⟩
    · cases said
  · rintro ⟨key, stored, misfit⟩
    exact ⟨slot, isSlot, by simp [stored, misfit]⟩

theorem plan_of_settingWepKeyType {spec : Enumeration}
    (planned : settingScalar property (.wepKeyType spec) profile text = .ok plan) :
    ∃ number, plan =
      { putting property (.int number) with advisories := keysRuledOut profile property.setting number } := by
  obtain ⟨value, read, planned⟩ := Reading.bind_eq_ok planned
  obtain ⟨number, -, rfl⟩ := Reading.map_eq_ok read
  cases planned
  exact ⟨number, rfl⟩

theorem stored_of_guessKeyType {stored type : WepKeyType} {key : String}
    (guessed : guessKeyType stored key = .ok type) : type = stored ∨ stored = .unknown := by
  unfold guessKeyType at guessed
  simp only at guessed
  split at guessed
  · cases guessed
  · split at guessed
    · next free =>
      cases guessed
      exact free.symm.imp_left Eq.symm
    · split at guessed
      · cases guessed
        exact .inl rfl
      · cases guessed

/-- A key comes with the stored type, or with any while none is known, and no stored key is named. -/
theorem type_of_settingWepKey {slot : Fin 4} (place : property.setting = wirelessSecurity)
    (planned : settingWepKey property slot profile text = .ok plan) :
    ∃ type, (type = profile.wepKeyType ∨ profile.wepKeyType = .unknown) ∧
      .put wirelessSecurity "wep-key-type" (.int type.number) ∈ plan.changes ∧
      ∀ other ruled, .keyRuledOut other ruled ∉ plan.advisories ++ plan.reminders := by
  unfold settingWepKey at planned
  rw [place] at planned
  obtain ⟨type, guessed, planned⟩ := Reading.bind_eq_ok planned
  cases planned
  refine ⟨type, stored_of_guessKeyType guessed, by simp, fun other ruled => ?_⟩
  simp only
  split <;> simp

end Plan

/-- The type of the WEP keys is written through its own property and with every key. -/
theorem Property.contract_of_uses_wepKeyType {property : Property}
    (registered : property ∈ Catalogue.standard.properties)
    (uses : property.Uses wirelessSecurity "wep-key-type") :
    property.contract = .scalar (.wepKeyType Settings.wepKeyType) ∨
      ∃ slot, property.contract = .special (.wepKey slot) := by
  obtain ⟨place, used⟩ := uses
  by_cases own : property.name = "wep-key-type"
  · exact .inl (Catalogue.wepKeyType_of_name registered place.symm own)
  · -- of the properties that use a field besides their own, only the WEP keys use the type
    right
    unfold Property.used Property.looked at used
    grind

theorem Property.not_uses_slot {property : Property} {scalar : Scalar} (isScalar : property.contract = .scalar scalar)
    (name : property.name = "wep-key-type") {slot : String} (isSlot : slot ∈ WepKey.slotNames) :
    ¬property.Uses wirelessSecurity slot := by
  rintro ⟨-, used⟩
  have own : slot = "wep-key-type" := by
    simp only [Property.used, isScalar, name] at used
    split at used
    · cases used
    · exact List.mem_singleton.1 used
  subst own
  exact absurd isSlot (by decide)

namespace Operation

variable {operation : Operation} {profile : Profile}

theorem removing_of_uses_wepKeyType (uses : operation.property.Uses wirelessSecurity "wep-key-type")
    (profile : Profile) (text : String) : Plan.removing operation.property profile text = .ok {} := by
  rcases Property.contract_of_uses_wepKeyType operation.registered uses with isType | ⟨slot, isKey⟩
  · simp only [Plan.removing, isType]
  · simp only [Plan.removing, isKey]

theorem wepKeyType_without_text (noText : operation.action.givesText = false)
    (uses : operation.property.Uses wirelessSecurity "wep-key-type") (profile : Profile) :
    (operation.perform profile).profile.wepKeyType = profile.wepKeyType ∨
      (operation.perform profile).profile.wepKeyType = .unknown := by
  rcases profile_without_text noText (removing_of_uses_wepKeyType uses profile) with same | ⟨-, emptied⟩
  · rw [same]
    exact .inl rfl
  · rw [emptied]
    simp only [Profile.wepKeyType, Profile.int?, Profile.get?_reset]
    split
    · exact .inr rfl
    · exact .inl rfl

/-- The changes of a plan put a type, and that is the type afterwards. -/
theorem wepKeyType_of_put (legal : profile.Legal) {plan : Plan} (planned : operation.plan profile = .ok plan)
    {number : Int64} (here : .put wirelessSecurity "wep-key-type" (.int number) ∈ plan.changes) :
    (operation.perform profile).profile.wepKeyType = .ofNumber number := by
  obtain ⟨after, made, performed⟩ := perform_of_plan legal planned
  have apart := (effect_of_plan planned).apart operation.registered
  rw [performed, Profile.wepKeyType, Profile.int?, Profile.get?_changeAll_of_put apart here made]
  rfl

/-- Setting the type names the stored keys that do not fit it, and leaves them as they are. -/
theorem keyRuledOut_of_settingType (legal : profile.Legal)
    (isType : operation.property.contract = .scalar (.wepKeyType Settings.wepKeyType))
    (text : operation.action.givesText = true) {plan : Plan} (planned : operation.plan profile = .ok plan)
    (known : (operation.perform profile).profile.wepKeyType ≠ .unknown)
    {slot : String} (isSlot : slot ∈ WepKey.slotNames) :
    let outcome := operation.perform profile
    .keyRuledOut slot outcome.profile.wepKeyType ∈ outcome.advisories ↔
      outcome.profile.Misfits slot outcome.profile.wepKeyType := by
  intro outcome
  obtain ⟨place, name⟩ := Catalogue.place_of_wepKeyType operation.property operation.registered
    (by rw [isType]; rfl)
  obtain ⟨context, input, -, shape⟩ := setting_of_plan text planned
  rw [Plan.setting, isType] at shape
  obtain ⟨number, rfl⟩ := Plan.plan_of_settingWepKeyType shape
  have type : outcome.profile.wepKeyType = .ofNumber number :=
    wepKeyType_of_put legal planned (by simp [Plan.putting, place, name])
  have said : outcome.advisories = Plan.keysRuledOut profile wirelessSecurity number := by
    obtain ⟨after, -, performed⟩ := perform_of_plan legal planned
    simp [outcome, performed, Plan.putting, place]
  have spared := Property.not_uses_slot isType name isSlot
  have kept : outcome.profile.Misfits slot (.ofNumber number) ↔ profile.Misfits slot (.ofNumber number) := by
    simp only [Profile.Misfits, Profile.text?, outcome, get?_perform spared profile]
  change outcome.profile.wepKeyType ≠ .unknown at known
  rw [type] at known ⊢
  rw [said, kept]
  exact Plan.mem_keysRuledOut isSlot known

/-- A key gives the keys a type only if there is none, and names no key. -/
theorem type_of_settingKey (legal : profile.Legal) {slot : Fin 4}
    (isKey : operation.property.contract = .special (.wepKey slot))
    (text : operation.action.givesText = true) {plan : Plan} (planned : operation.plan profile = .ok plan) :
    let outcome := operation.perform profile
    (outcome.profile.wepKeyType = profile.wepKeyType ∨ profile.wepKeyType = .unknown) ∧
      ∀ other ruled, .keyRuledOut other ruled ∉ outcome.advisories := by
  intro outcome
  have place := (Catalogue.regular_of_mem operation.registered).wepKey slot isKey
  obtain ⟨context, input, -, shape⟩ := setting_of_plan text planned
  rw [Plan.setting, isKey] at shape
  obtain ⟨type, free, put, silent⟩ := Plan.type_of_settingWepKey place shape
  obtain ⟨after, -, performed⟩ := perform_of_plan legal planned
  constructor
  · rw [wepKeyType_of_put legal planned put, WepKeyType.ofNumber_number]
    exact free
  · simp only [outcome, performed]
    exact silent

end Operation

/-- Whenever the WEP keys get another type, those of the stored keys that do not fit it are named, and
no others. The exception is a key that is taken for a key as it stands while there is no type. -/
theorem Reachable.misfits_named {profile : Profile} (reached : Reachable profile) (operation : Operation) :
    let outcome := operation.perform profile
    let type := outcome.profile.wepKeyType
    type ≠ profile.wepKeyType → type ≠ .unknown →
      (∀ slot ∈ WepKey.slotNames,
        .keyRuledOut slot type ∈ outcome.advisories ↔ outcome.profile.Misfits slot type) ∨
      profile.wepKeyType = .unknown ∧ type = .key ∧
        ∃ slot, operation.property.contract = .special (.wepKey slot) := by
  intro outcome type changed known
  have uses : operation.property.Uses wirelessSecurity "wep-key-type" := by
    by_contra spared
    apply changed
    simp only [type, outcome, Profile.wepKeyType, Profile.int?, Operation.get?_perform spared profile]
  have text : operation.action.givesText = true := by
    by_contra noText
    exact (operation.wepKeyType_without_text (by simpa using noText) uses profile).elim changed known
  cases planned : operation.plan profile with
  | error error =>
    refine absurd ?_ changed
    simp only [type, outcome, Operation.perform_of_error planned]
  | ok plan =>
    rcases Property.contract_of_uses_wepKeyType operation.registered uses with isType | ⟨slot, isKey⟩
    · exact .inl fun slot isSlot =>
        operation.keyRuledOut_of_settingType reached.legal isType text planned known isSlot
    · obtain ⟨free, silent⟩ := operation.type_of_settingKey reached.legal isKey text planned
      cases kind : type with
      | unknown => exact absurd kind known
      | key => exact .inr ⟨free.resolve_left changed, rfl, slot, isKey⟩
      | passphrase =>
        refine .inl fun other isSlot => iff_of_false (silent _ _) ?_
        exact (reached.step operation).legal.not_misfits_passphrase isSlot

namespace Operation

def setSecondKey (text : String) : Operation :=
  .assign Settings.wifiSecurity.properties[9] (by decide +kernel) text

def keyTypeProperty : Property := Settings.wifiSecurity.properties[13]

theorem keyTypeProperty_mem : keyTypeProperty ∈ Catalogue.standard.properties := by decide +kernel

def setKeyType (text : String) : Operation := .assign keyTypeProperty keyTypeProperty_mem text

def resetKeyType : Operation where
  property := keyTypeProperty
  registered := keyTypeProperty_mem
  action := .set { catalogue := .standard, freshUuid := ⟨7⟩ } rfl .reset

end Operation

/-- A passphrase that is stored is named once the keys are to be keys as they stand. -/
theorem Reachable.misfits_named_passphrase :
    let profile := Profile.empty.after [.setFirstKey "a long passphrase"]
    let outcome := (Operation.setKeyType "key").perform profile
    outcome.profile.wepKeyType = .key ∧ outcome.profile.Misfits "wep-key0" .key ∧
      .keyRuledOut "wep-key0" .key ∈ outcome.advisories := by
  intro profile outcome
  have facts : profile.wepKeyType = .passphrase ∧ outcome.profile.wepKeyType = .key ∧
      outcome.profile.text? wirelessSecurity "wep-key0" = some "a long passphrase" := by decide +kernel
  obtain ⟨before, type, stored⟩ := facts
  have misfit : outcome.profile.Misfits "wep-key0" .key := ⟨_, stored, by decide +kernel⟩
  have named := misfits_named (Reachable.empty.after _) (Operation.setKeyType "key")
    (by rw [type, before]; decide) (by rw [type]; decide)
  rw [type, before] at named
  have said := (named.resolve_right fun free => absurd free.1 (by decide)) "wep-key0" (by decide)
  exact ⟨type, misfit, said.2 misfit⟩

/-- After a reset of the type, the second key makes all of them keys as they stand, and nothing is
said of the passphrase that is stored as the first. -/
theorem Reachable.misfit_unnamed :
    let profile := Profile.empty.after [.setFirstKey "a long passphrase", .resetKeyType]
    let outcome := (Operation.setSecondKey "abcde").perform profile
    Reachable profile ∧ outcome.error = none ∧
      profile.wepKeyType = .unknown ∧ outcome.profile.wepKeyType = .key ∧
      outcome.profile.Misfits "wep-key0" .key ∧
      outcome.advisories = [.keyGuessed .key, .slotChosen 1] ∧
      ∀ advisory ∈ outcome.advisories, advisory.level = .info := by
  intro profile outcome
  have facts : outcome.error = none ∧ profile.wepKeyType = .unknown ∧ outcome.profile.wepKeyType = .key ∧
      outcome.profile.text? wirelessSecurity "wep-key0" = some "a long passphrase" ∧
      outcome.advisories = [.keyGuessed .key, .slotChosen 1] := by decide +kernel
  obtain ⟨passed, before, type, stored, said⟩ := facts
  refine ⟨Reachable.empty.after _, passed, before, type, ⟨_, stored, by decide +kernel⟩, said, ?_⟩
  rw [said]
  decide

end NetProfile
