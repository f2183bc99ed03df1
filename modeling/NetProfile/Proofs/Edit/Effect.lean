import NetProfile.Proofs.Contract.Reads
import NetProfile.Proofs.Edit.Run
import NetProfile.Proofs.Settings.Standard

/-!
Plans of operations, taken apart. `Effect` lists everything that an operation can change, with the
conditions under which it does; what later proofs say of operations they say of these cases.
-/

namespace NetProfile

def Property.HeldReads (property : Property) (profile : Profile) : Prop :=
  ∀ value, profile.get? property.setting property.name = some value →
    property.contract.Reads .standard value

def Property.typeChanges (property : Property) (setting : Setting) (uuid : Uuid) : List Change :=
  .put property.setting property.name (.ofText setting.name)
    :: .put property.setting "uuid" (.ofText uuid.toText)
    :: setting.mandatoryParts.map .ensure

def Property.wepKeyChanges (property : Property) (slot : Fin 4) (key : String) (type : WepKeyType)
    (moved : Prop) [Decidable moved] : List Change :=
  .put property.setting property.name (.ofText key)
    :: .put property.setting "wep-key-type" (.int type.number)
    :: if moved then [.put property.setting "wep-tx-keyidx" (.int (Int64.ofNat slot))] else []

theorem Property.mem_typeChanges {property : Property} {setting : Setting} {uuid : Uuid} {change : Change}
    (here : change ∈ property.typeChanges setting uuid) :
    change = .put property.setting property.name (.ofText setting.name) ∨
      change = .put property.setting "uuid" (.ofText uuid.toText) ∨
      ∃ part, change = .ensure part := by
  rcases List.mem_cons.1 here with first | here
  · exact .inl first
  · rcases List.mem_cons.1 here with second | here
    · exact .inr (.inl second)
    · obtain ⟨part, -, same⟩ := List.mem_map.1 here
      exact .inr (.inr ⟨part, same.symm⟩)

theorem Property.mem_wepKeyChanges {property : Property} {slot : Fin 4} {key : String}
    {type : WepKeyType} {moved : Prop} [Decidable moved] {change : Change}
    (here : change ∈ property.wepKeyChanges slot key type moved) :
    change = .put property.setting property.name (.ofText key) ∨
      change = .put property.setting "wep-key-type" (.int type.number) ∨
      change = .put property.setting "wep-tx-keyidx" (.int (Int64.ofNat slot)) := by
  rcases List.mem_cons.1 here with first | here
  · exact .inl first
  · rcases List.mem_cons.1 here with second | here
    · exact .inr (.inl second)
    · split at here
      next => exact .inr (.inr (List.mem_singleton.1 here))
      next => cases here

inductive Effect (property : Property) (profile : Profile) : List Change → Prop where
  | nothing : Effect property profile []
  | reset (writable : property.isReadOnly = false)
      (free : property.contract = .special .connectionType →
        profile.text? property.setting "uuid" = none) :
      Effect property profile [.reset property.setting property.name]
  /-- Only lists and maps may change although the property is read-only. -/
  | put (value : Value) (notType : property.contract ≠ .special .connectionType)
      (writable : ∀ scalar, property.contract = .scalar scalar → property.isReadOnly = false)
      (reads : property.HeldReads profile → property.contract.Reads .standard value) :
      Effect property profile [.put property.setting property.name value]
  | type (setting : Setting) (uuid : Uuid) (isType : property.contract = .special .connectionType)
      (free : profile.text? property.setting "uuid" = none)
      (known : setting ∈ Catalogue.standard.types) :
      Effect property profile (property.typeChanges setting uuid)
  | wepKey (slot : Fin 4) (key : String) (type : WepKeyType) (moved : Prop) [Decidable moved]
      (isKey : property.contract = .special (.wepKey slot)) (fits : WepKey.fits key type = true)
      (known : type ≠ .unknown) :
      Effect property profile (property.wepKeyChanges slot key type moved)

namespace Property.HeldReads

variable {property : Property} {profile : Profile}

/-- What holds of the usual value and of every value read from texts holds of the stored one. -/
theorem holds_stored {α : Type} (held : property.HeldReads profile) (holds : α → Prop)
    {part? : Value → Option α} {usual : α} (initially : holds usual)
    (read : ∀ value part, property.contract.Reads .standard value → part? value = some part →
      holds part) :
    holds (((profile.get? property.setting property.name).bind part?).getD usual) := by
  cases stored : profile.get? property.setting property.name with
  | none => exact initially
  | some value =>
    rw [Option.bind_some]
    cases found : part? value with
    | none => exact initially
    | some part => exact read value part (held value stored) found

theorem list {list : ListContract} (held : property.HeldReads profile)
    (isList : property.contract = .list list) :
    ∀ item ∈ profile.list property.setting property.name, list.ReadsItem item := by
  apply held.holds_stored fun (items : List Item) => ∀ item ∈ items, list.ReadsItem item
  · simp
  · intro value items reads found
    rw [isList] at reads
    cases value <;> cases found
    exact reads

theorem options {spec : OptionMap} (held : property.HeldReads profile)
    (isMap : property.contract = .options spec) :
    ∀ pair ∈ (profile.map property.setting property.name).entries, spec.ReadsPair pair := by
  apply held.holds_stored fun (dict : Dict String) => ∀ pair ∈ dict.entries, spec.ReadsPair pair
  · simp [Dict.empty]
  · intro value entries reads found
    rw [isMap] at reads
    cases value <;> cases found
    exact reads

theorem dnsOptions (held : property.HeldReads profile)
    (isDns : property.contract = .special .dnsOptions) :
    ∀ option ∈ (profile.dnsOptions property.setting property.name).items,
      DnsOptions.isOption option = true := by
  apply held.holds_stored fun (options : DnsOptions) =>
    ∀ option ∈ options.items, DnsOptions.isOption option = true
  · simp [DnsOptions.items]
  · intro value options reads found
    rw [isDns] at reads
    cases value <;> cases found
    exact reads

end Property.HeldReads

namespace Plan

variable {context : Context} {property : Property} {profile : Profile} {text : String} {plan : Plan}

theorem free_of_checkTypeFree {nothing : Unit}
    (unfixed : checkTypeFree property profile = .ok nothing) :
    profile.text? property.setting "uuid" = none := by
  unfold checkTypeFree at unfixed
  split at unfixed
  · cases unfixed
  · next absent => simpa using absent

theorem changes_of_settingType (standard : context.catalogue = .standard)
    (planned : settingType context property profile text = .ok plan) :
    profile.text? property.setting "uuid" = none ∧ ∃ setting ∈ Catalogue.standard.types,
      plan.changes = property.typeChanges setting context.freshUuid := by
  obtain ⟨_, unfixed, planned⟩ := Reading.bind_eq_ok planned
  obtain ⟨word, chosen, planned⟩ := Reading.bind_eq_ok planned
  obtain ⟨setting, found, planned⟩ := Reading.bind_eq_ok planned
  cases planned
  rw [standard] at chosen found
  obtain ⟨type, known, same⟩ := Catalogue.setting_of_typeName (choose_mem chosen)
  rw [same] at found
  cases found
  exact ⟨free_of_checkTypeFree unfixed, setting, known, rfl⟩

theorem effect_of_settingType (standard : context.catalogue = .standard)
    (isType : property.contract = .special .connectionType)
    (planned : settingType context property profile text = .ok plan) :
    Effect property profile plan.changes := by
  obtain ⟨free, setting, known, changes⟩ := changes_of_settingType standard planned
  rw [changes]
  exact .type setting context.freshUuid isType free known

theorem fits_of_guessKeyType {stored type : WepKeyType} {key : String}
    (guessed : guessKeyType stored key = .ok type) : WepKey.fits key type = true ∧ type ≠ .unknown := by
  unfold guessKeyType at guessed
  simp only at guessed
  split at guessed
  · cases guessed
  · next guess found =>
    have own : WepKey.fits key guess = true ∧ guess ≠ .unknown := by
      split at found
      · next fits =>
        cases found
        exact ⟨fits, by decide⟩
      · split at found
        · next fits =>
          cases found
          exact ⟨fits, by decide⟩
        · cases found
    split at guessed
    · cases guessed
      exact own
    · next other =>
      split at guessed
      · next fits =>
        cases guessed
        exact ⟨fits, fun unknown => other (.inl unknown)⟩
      · cases guessed

theorem effect_of_settingWepKey {slot : Fin 4} (isKey : property.contract = .special (.wepKey slot))
    (planned : settingWepKey property slot profile text = .ok plan) :
    Effect property profile plan.changes := by
  obtain ⟨type, guessed, planned⟩ := Reading.bind_eq_ok planned
  cases planned
  obtain ⟨fits, known⟩ := fits_of_guessKeyType guessed
  exact .wepKey slot text type _ isKey fits known

theorem effect_of_settingScalar {scalar : Scalar} (isScalar : property.contract = .scalar scalar)
    (writable : property.isReadOnly = false)
    (planned : settingScalar property scalar profile text = .ok plan) :
    Effect property profile plan.changes := by
  obtain ⟨value, read, planned⟩ := Reading.bind_eq_ok planned
  have changes : plan.changes = (putting property value).changes := by
    cases planned
    split <;> rfl
  rw [changes]
  refine .put value (by simp [isScalar]) (fun _ _ => writable) fun _ => ?_
  rw [isScalar]
  exact ⟨text, read⟩

theorem effect_of_settingSpecial (standard : context.catalogue = .standard) {special : Special}
    (isSpecial : property.contract = .special special)
    (planned : settingSpecial context property special profile text = .ok plan) :
    Effect property profile plan.changes := by
  have notScalar : ∀ scalar, property.contract = .scalar scalar → property.isReadOnly = false := by
    intro scalar isScalar
    rw [isSpecial] at isScalar
    cases isScalar
  cases special with
  | connectionType => exact effect_of_settingType standard isSpecial planned
  | wepKey slot => exact effect_of_settingWepKey isSpecial planned
  | dnsOptions =>
    obtain ⟨options, added, planned⟩ := Reading.bind_eq_ok planned
    cases planned
    refine .put (.dnsOptions options) (by simp [isSpecial]) notScalar fun held => ?_
    rw [isSpecial]
    exact DnsOptions.isOption_of_add (held.dnsOptions isSpecial) added
  | partitionKey =>
    obtain ⟨key, read, planned⟩ := Reading.bind_eq_ok planned
    cases planned
    refine .put (.int key) (by simp [isSpecial]) notScalar fun _ => ?_
    rw [isSpecial]
    exact ⟨text, read⟩
  | wifiChannel =>
    obtain ⟨channel, read, planned⟩ := Reading.bind_eq_ok planned
    cases planned
    refine .put (.int channel) (by simp [isSpecial]) notScalar fun _ => ?_
    rw [isSpecial]
    exact ⟨text, read⟩
  | networkName =>
    obtain ⟨name, read, planned⟩ := Reading.bind_eq_ok planned
    cases planned
    refine .put (.octets (some (Text.utf8Bytes name))) (by simp [isSpecial]) notScalar fun _ => ?_
    rw [isSpecial]
    refine ⟨text, ?_⟩
    rw [read]
    rfl

theorem effect_of_list {list : ListContract} (isList : property.contract = .list list)
    {items : List Item} (reads : property.HeldReads profile → ∀ item ∈ items, list.ReadsItem item) :
    Effect property profile (putting property (.list items)).changes := by
  refine .put (.list items) (by simp [isList]) (by simp [isList]) fun held => ?_
  rw [isList]
  exact reads held

theorem effect_of_options {spec : OptionMap} (isMap : property.contract = .options spec)
    {entries : Dict String}
    (reads : property.HeldReads profile → ∀ pair ∈ entries.entries, spec.ReadsPair pair) :
    Effect property profile (putting property (.map entries)).changes := by
  refine .put (.map entries) (by simp [isMap]) (by simp [isMap]) fun held => ?_
  rw [isMap]
  exact reads held

theorem effect_of_setting (standard : context.catalogue = .standard)
    (writable : property.isReadOnly = false)
    (planned : setting context property profile text = .ok plan) :
    Effect property profile plan.changes := by
  unfold setting at planned
  split at planned
  · next scalar isScalar => exact effect_of_settingScalar isScalar writable planned
  · next list isList =>
    obtain ⟨items, added, planned⟩ := Reading.bind_eq_ok planned
    cases planned
    exact effect_of_list isList fun held => ListContract.readsItem_of_add (held.list isList) added
  · next spec isMap =>
    obtain ⟨entries, added, planned⟩ := Reading.bind_eq_ok planned
    cases planned
    exact effect_of_options isMap fun held => OptionMap.readsPair_of_add (held.options isMap) added
  · next special isSpecial => exact effect_of_settingSpecial standard isSpecial planned

theorem effect_of_removing (planned : removing property profile text = .ok plan) :
    Effect property profile plan.changes := by
  unfold removing at planned
  split at planned
  · next list isList =>
    obtain ⟨items, removed, planned⟩ := Reading.bind_eq_ok planned
    cases planned
    exact effect_of_list isList fun held => ListContract.readsItem_of_remove (held.list isList) removed
  · next spec isMap =>
    obtain ⟨entries, removed, planned⟩ := Reading.bind_eq_ok planned
    cases planned
    exact effect_of_options isMap fun held => OptionMap.readsPair_of_remove (held.options isMap) removed
  · next isDns =>
    obtain ⟨options, removed, planned⟩ := Reading.bind_eq_ok planned
    cases planned
    refine .put (.dnsOptions options) (by simp [isDns]) (by simp [isDns]) fun held => ?_
    rw [isDns]
    exact DnsOptions.isOption_of_remove (held.dnsOptions isDns) removed
  · cases planned
    exact .nothing

theorem effect_of_resetting (writable : property.isReadOnly = false)
    (planned : resetting property profile = .ok plan) : Effect property profile plan.changes := by
  unfold resetting at planned
  split at planned
  · obtain ⟨_, unfixed, planned⟩ := Reading.bind_eq_ok planned
    cases planned
    exact .reset writable fun _ => free_of_checkTypeFree unfixed
  · next other =>
    cases planned
    exact .reset writable fun isType => absurd isType other

end Plan

theorem Operation.effect_of_plan {operation : Operation} {profile : Profile} {plan : Plan}
    (planned : operation.plan profile = .ok plan) :
    Effect operation.property profile plan.changes := by
  unfold Operation.plan at planned
  split at planned
  · cases planned
    exact .nothing
  · split at planned
    · cases planned
    · next writable => exact Plan.effect_of_resetting (by simpa using writable) planned
  · next context standard _ text =>
    split at planned
    · cases planned
    · next writable => exact Plan.effect_of_setting standard (by simpa using writable) planned
  · exact Plan.effect_of_removing planned

/-- The plan of an operation that gives a text is read from the text. -/
theorem Operation.setting_of_plan {operation : Operation} {profile : Profile} {plan : Plan}
    (text : operation.action.givesText = true) (planned : operation.plan profile = .ok plan) :
    ∃ context input, context.catalogue = .standard ∧
      Plan.setting context operation.property profile input = .ok plan := by
  obtain ⟨property, registered, action⟩ := operation
  cases action with
  | remove => cases text
  | set context standard assignment =>
    cases assignment with
    | unchanged | reset => cases text
    | text input =>
      simp only [Operation.plan] at planned
      split at planned
      · cases planned
      · exact ⟨context, input, standard, planned⟩

/-- A text for the type is planned only while there is no identifier, and always brings a type. -/
theorem Operation.changes_of_typeText {operation : Operation} {profile : Profile} {plan : Plan}
    (isType : operation.property.contract = .special .connectionType)
    (text : operation.action.givesText = true) (planned : operation.plan profile = .ok plan) :
    profile.text? operation.property.setting "uuid" = none ∧
      ∃ setting ∈ Catalogue.standard.types, ∃ uuid,
        plan.changes = operation.property.typeChanges setting uuid := by
  obtain ⟨context, input, standard, planned⟩ := setting_of_plan text planned
  rw [Plan.setting, isType] at planned
  obtain ⟨free, setting, known, changes⟩ := Plan.changes_of_settingType standard planned
  exact ⟨free, setting, known, context.freshUuid, changes⟩

end NetProfile
