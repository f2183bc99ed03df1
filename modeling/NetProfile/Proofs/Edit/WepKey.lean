import NetProfile.Proofs.Edit.Independence
import NetProfile.Proofs.Edit.WepKeyType

/-!
The four WEP keys. A key that is set brings its type along and becomes the key in use. It is refused
only if it is no passphrase, or no key as it stands while all of them are to be such keys. So as long
as nobody writes to the type itself, the stored keys fit it.
-/

namespace NetProfile

def Profile.wepIndex (profile : Profile) : Int64 :=
  (profile.int? wirelessSecurity "wep-tx-keyidx").getD 0

/-- The type of the keys once `key` is set: the one there is, or else the first that the key fits. -/
def WepKeyType.onKey (stored : WepKeyType) (key : String) : WepKeyType :=
  if stored ≠ .unknown then stored
  else if WepKey.fits key .key then .key
  else .passphrase

/-- What becomes of a profile when a key is set. The key stands in its slot as it was given, the type
that was there stays or one that the key fits is chosen, and no field changes besides these and the
index. -/
structure Profile.TakesKey (before after : Profile) (slot : Fin 4) (name key : String) : Prop where
  stored : after.get? wirelessSecurity name = some (.ofText key)
  type : after.get? wirelessSecurity "wep-key-type" = some (.int (before.wepKeyType.onKey key).number)
  fits : WepKey.fits key (before.wepKeyType.onKey key) = true
  index : after.wepIndex = Int64.ofNat slot
  others : ∀ setting other,
    ¬(setting = wirelessSecurity ∧ other ∈ [name, "wep-key-type", "wep-tx-keyidx"]) →
    after.get? setting other = before.get? setting other

def Profile.KeysFit (profile : Profile) : Prop :=
  ∀ slot ∈ WepKey.slotNames, ∀ key, profile.text? wirelessSecurity slot = some key →
    profile.wepKeyType ≠ .unknown ∧ WepKey.fits key profile.wepKeyType = true

def Operation.WritesKeyType (operation : Operation) : Prop :=
  operation.property.setting = wirelessSecurity ∧ operation.property.name = "wep-key-type" ∧
    (operation.action.givesText = true ∨ operation.action.resets = true)

theorem WepKey.fits_passphrase_eq_false {key : String} :
    WepKey.fits key .passphrase = false ↔ key = "" ∨ 64 < Text.byteLength key := by
  simp only [WepKey.fits, isPassphrase, Bool.and_eq_false_iff, decide_eq_false_iff_not, not_not, Nat.not_le]

theorem WepKeyType.onKey_ne_unknown (stored : WepKeyType) (key : String) : stored.onKey key ≠ .unknown := by
  unfold onKey
  split
  · next known => exact known
  · split <;> decide

namespace Plan

/-- What is read of a key: a text that is no passphrase is refused, and so is one that is no key as it
stands where keys are to be such keys. -/
theorem guessKeyType_eq (stored : WepKeyType) (key : String) :
    guessKeyType stored key =
      if WepKey.fits key .passphrase = false then .error (.invalid key (.notValid key))
      else if stored = .key ∧ WepKey.fits key .key = false then
        .error (.invalid key (.wepKeyType key stored.label))
      else .ok (stored.onKey key) := by
  unfold guessKeyType WepKeyType.onKey
  cases asKey : WepKey.fits key .key with
  | true => cases stored <;> simp [WepKey.fits_passphrase asKey]
  | false =>
    cases asPhrase : WepKey.fits key .passphrase with
    | true => cases stored <;> simp [asKey]
    | false => simp

theorem guessKeyType_eq_error_iff {stored : WepKeyType} {key : String} :
    (∃ error, guessKeyType stored key = .error error) ↔
      key = "" ∨ 64 < Text.byteLength key ∨ stored = .key ∧ WepKey.fits key .key = false := by
  rw [guessKeyType_eq, ← or_assoc, ← WepKey.fits_passphrase_eq_false]
  split
  · next noPhrase => simp [noPhrase]
  · next phrase =>
    split
    · next misfit => simp [misfit]
    · next fits => simp [phrase, fits]

theorem guessKeyType_eq_ok {stored type : WepKeyType} {key : String}
    (guessed : guessKeyType stored key = .ok type) :
    type = stored.onKey key ∧ WepKey.fits key type = true := by
  have fits := (fits_of_guessKeyType guessed).1
  rw [guessKeyType_eq] at guessed
  split at guessed
  · cases guessed
  · split at guessed
    · cases guessed
    · cases guessed
      exact ⟨rfl, fits⟩

end Plan

section

variable {property : Property} {slot : Fin 4} {profile : Profile} {key : String}

theorem Property.set_wepKey (registered : property ∈ Catalogue.standard.properties)
    (isKey : property.contract = .special (.wepKey slot)) (context : Context) (profile : Profile) (key : String) :
    property.set context profile (.text key)
      = property.carryOut profile (Plan.settingWepKey property slot profile key) := by
  rw [Property.set_text_of_writable (Catalogue.writable_of_special registered isKey)]
  simp only [Plan.setting, isKey, Plan.settingSpecial]

namespace Plan

theorem settingWepKey_eq_error_iff (place : property.setting = wirelessSecurity) :
    (∃ error, settingWepKey property slot profile key = .error error) ↔
      key = "" ∨ 64 < Text.byteLength key ∨
        profile.wepKeyType = .key ∧ WepKey.fits key .key = false := by
  rw [← guessKeyType_eq_error_iff, settingWepKey, place]
  change (∃ error, (guessKeyType profile.wepKeyType key >>= _) = .error error) ↔ _
  cases guessKeyType profile.wepKeyType key with
  | error error => exact iff_of_true ⟨error, rfl⟩ ⟨error, rfl⟩
  | ok type => simp [bind, Except.bind, pure, Except.pure]

/-- A key that is read is stored with its type, and its index if it is not the key in use already. -/
theorem changes_of_settingWepKey (place : property.setting = wirelessSecurity) {plan : Plan}
    (planned : settingWepKey property slot profile key = .ok plan) :
    WepKey.fits key (profile.wepKeyType.onKey key) = true ∧
      plan.changes = property.wepKeyChanges slot key (profile.wepKeyType.onKey key)
        (Int64.ofNat slot ≠ profile.wepIndex) := by
  rw [settingWepKey, place] at planned
  obtain ⟨type, guessed, planned⟩ := Reading.bind_eq_ok planned
  obtain ⟨rfl, fits⟩ := guessKeyType_eq_ok guessed
  cases planned
  refine ⟨fits, ?_⟩
  rw [Property.wepKeyChanges, place]
  rfl

/-- The slot is in use after the changes, whether it has just been chosen or was in use before. -/
theorem wepIndex_of_settingWepKey (registered : property ∈ Catalogue.standard.properties)
    (isKey : property.contract = .special (.wepKey slot)) {plan : Plan}
    (planned : settingWepKey property slot profile key = .ok plan) {after : Profile}
    (made : profile.changeAll plan.changes = (after, none)) : after.wepIndex = Int64.ofNat slot := by
  have place := (Catalogue.regular_of_mem registered).wepKey slot isKey
  obtain ⟨-, changes⟩ := changes_of_settingWepKey place planned
  by_cases moved : Int64.ofNat slot ≠ profile.wepIndex
  · have here : .put wirelessSecurity "wep-tx-keyidx" (.int (Int64.ofNat slot)) ∈ plan.changes := by
      simp [changes, Property.wepKeyChanges, place, moved]
    have apart := (effect_of_settingWepKey isKey planned).apart registered
    have chosen := Profile.get?_changeAll_of_put apart here made
    rw [Profile.wepIndex, Profile.int?, chosen]
    rfl
  · have own : "wep-tx-keyidx" ≠ property.name := fun same =>
      Property.name_not_mem_companions registered (by simp [Property.companions, isKey, ← same])
    have spared : ∀ change ∈ plan.changes, ¬change.Touches wirelessSecurity "wep-tx-keyidx" := by
      rw [changes, Property.wepKeyChanges, if_neg moved]
      simp [Change.Touches, own]
    have kept := Profile.get?_changeAll spared profile
    rw [made] at kept
    rw [Profile.wepIndex, Profile.int?, kept]
    exact (not_not.1 moved).symm

theorem takesKey_of_settingWepKey (legal : profile.Legal)
    (registered : property ∈ Catalogue.standard.properties)
    (isKey : property.contract = .special (.wepKey slot)) {plan : Plan}
    (planned : settingWepKey property slot profile key = .ok plan) :
    ∃ after, profile.changeAll plan.changes = (after, none) ∧
      profile.TakesKey after slot property.name key := by
  have place := (Catalogue.regular_of_mem registered).wepKey slot isKey
  have effect := effect_of_settingWepKey isKey planned
  obtain ⟨after, made, -⟩ := legal.changeAll (effect.legal registered legal)
  obtain ⟨fits, changes⟩ := changes_of_settingWepKey place planned
  have put : ∀ name value, .put wirelessSecurity name value ∈ plan.changes →
      after.get? wirelessSecurity name = some value :=
    fun name value here => Profile.get?_changeAll_of_put (effect.apart registered) here made
  rw [changes, Property.wepKeyChanges, place] at put
  have index := wepIndex_of_settingWepKey registered isKey planned made
  refine ⟨after, made, put _ _ List.mem_cons_self, ?_, fits, index, ?_⟩
  · exact put _ _ (List.mem_cons_of_mem _ List.mem_cons_self)
  · intro setting other elsewhere
    have spared : ∀ change ∈ plan.changes, ¬change.Touches setting other := by
      refine fun change here touched => elsewhere ?_
      rw [changes] at here
      rcases Property.mem_wepKeyChanges here with rfl | rfl | rfl
      all_goals
        obtain ⟨rfl, rfl⟩ := touched
        exact ⟨place, by simp⟩
    have kept := Profile.get?_changeAll spared profile
    rwa [made] at kept

end Plan

/-- On a legal profile a key is refused for what it is and for the type of the keys, and for nothing
else. -/
theorem Profile.Legal.set_wepKey (legal : profile.Legal) (registered : property ∈ Catalogue.standard.properties)
    (isKey : property.contract = .special (.wepKey slot)) (context : Context) (key : String) :
    let outcome := property.set context profile (.text key)
    (outcome.error ≠ none ↔
      key = "" ∨ 64 < Text.byteLength key ∨ profile.wepKeyType = .key ∧ WepKey.fits key .key = false) ∧
    (outcome.error = none → profile.TakesKey outcome.profile slot property.name key) := by
  intro outcome
  have place := (Catalogue.regular_of_mem registered).wepKey slot isKey
  have carried : outcome = _ := Property.set_wepKey registered isKey context profile key
  have refused : (∃ error, Plan.settingWepKey property slot profile key = .error error) ↔ _ :=
    Plan.settingWepKey_eq_error_iff place
  rw [← refused]
  cases planned : Plan.settingWepKey property slot profile key with
  | error error =>
    rw [planned] at carried
    simp [carried, Property.carryOut]
  | ok plan =>
    obtain ⟨after, made, taken⟩ := Plan.takesKey_of_settingWepKey legal registered isKey planned
    rw [planned] at carried
    simp [carried, Property.carryOut, Plan.run, made, taken]

end

namespace Profile.KeysFit

variable {profile after : Profile} {slot : Fin 4} {name key : String}

theorem congr (fit : profile.KeysFit)
    (type : after.get? wirelessSecurity "wep-key-type" = profile.get? wirelessSecurity "wep-key-type")
    (keys : ∀ slot ∈ WepKey.slotNames, ∀ key, after.text? wirelessSecurity slot = some key →
      profile.text? wirelessSecurity slot = some key) : after.KeysFit := by
  intro slot isSlot key stored
  have same : after.wepKeyType = profile.wepKeyType := by
    simp only [wepKeyType, int?, type]
  rw [same]
  exact fit slot isSlot key (keys slot isSlot key stored)

/-- The new key fits its type. The others fit it as before, as the type stays if there are any. -/
theorem takesKey (fit : profile.KeysFit) (taken : profile.TakesKey after slot name key) : after.KeysFit := by
  have type : after.wepKeyType = profile.wepKeyType.onKey key := by
    rw [wepKeyType, int?, taken.type]
    exact WepKeyType.ofNumber_number _
  intro other isSlot held stored
  rw [type]
  by_cases own : other = name
  · subst own
    rw [text?, taken.stored] at stored
    cases stored
    exact ⟨WepKeyType.onKey_ne_unknown _ _, taken.fits⟩
  · have noCompanion : other ≠ "wep-key-type" ∧ other ≠ "wep-tx-keyidx" := by
      constructor <;> (rintro rfl; revert isSlot; decide)
    rw [text?, taken.others _ _ (by simp [own, noCompanion])] at stored
    obtain ⟨known, fits⟩ := fit other isSlot held stored
    rw [WepKeyType.onKey, if_pos known]
    exact ⟨known, fits⟩

end Profile.KeysFit

namespace Operation

variable {operation : Operation} {profile : Profile}

theorem uses_wepKeyType_of_slot {slot : String} (isSlot : slot ∈ WepKey.slotNames)
    (uses : operation.property.Uses wirelessSecurity slot) :
    operation.property.Uses wirelessSecurity "wep-key-type" := by
  obtain ⟨place, own | ⟨connection, -, -⟩ | ⟨-, companion⟩⟩ := Property.cases_of_uses operation.registered uses
  · obtain ⟨index, isKey⟩ := Catalogue.wepKey_of_slotName operation.registered place.symm (own.1 ▸ isSlot)
    exact ⟨place, Property.mem_used_of_looked (by simp [Property.looked, isKey])⟩
  · exact absurd (place.trans connection) (by decide)
  · revert isSlot companion
    simp only [WepKey.slotNames]
    grind

/-- A key that is set keeps all of them fitting, whether it is refused or not. -/
theorem keysFit_text (legal : profile.Legal) (fit : profile.KeysFit) {slot : Fin 4}
    (isKey : operation.property.contract = .special (.wepKey slot)) (text : operation.action.givesText = true) :
    (operation.perform profile).profile.KeysFit := by
  cases planned : operation.plan profile with
  | error error =>
    rw [perform_of_error planned]
    exact fit
  | ok plan =>
    obtain ⟨after, -, performed⟩ := perform_of_plan legal planned
    have passed : (operation.perform profile).error = none := by rw [performed]
    obtain ⟨property, registered, action⟩ := operation
    cases action with
    | remove => cases text
    | set context standard assignment =>
      cases assignment with
      | unchanged | reset => cases text
      | text key => exact fit.takesKey ((legal.set_wepKey registered isKey context key).2 passed)

/-- A key that is taken away leaves the others. -/
theorem keysFit_reset (fit : profile.KeysFit) {setting key : String}
    (elsewhere : ¬(wirelessSecurity = setting ∧ "wep-key-type" = key)) : (profile.reset setting key).KeysFit := by
  refine fit.congr ?_ fun slot isSlot held stored => ?_
  · rw [Profile.get?_reset, if_neg elsewhere]
  · rw [Profile.text?, Profile.get?_reset] at stored
    split at stored
    · cases stored
    · exact stored

theorem keysFit_perform (legal : profile.Legal) (fit : profile.KeysFit) (spares : ¬operation.WritesKeyType) :
    (operation.perform profile).profile.KeysFit := by
  by_cases uses : operation.property.Uses wirelessSecurity "wep-key-type"
  · have elsewhere : operation.action.givesText = true ∨ operation.action.resets = true →
        ¬(wirelessSecurity = operation.property.setting ∧ "wep-key-type" = operation.property.name) :=
      fun writes own => spares ⟨own.1.symm, own.2.symm, writes⟩
    cases text : operation.action.givesText with
    | false =>
      rcases profile_without_text text (removing_of_uses_wepKeyType uses profile) with same | ⟨resets, emptied⟩
      · rw [same]
        exact fit
      · rw [emptied]
        exact keysFit_reset fit (elsewhere (.inr resets))
    | true =>
      rcases Property.contract_of_uses_wepKeyType operation.registered uses with isType | ⟨slot, isKey⟩
      · obtain ⟨place, name⟩ := Catalogue.place_of_wepKeyType operation.property operation.registered
          (by rw [isType]; rfl)
        exact absurd ⟨place.symm, name.symm⟩ (elsewhere (.inl text))
      · exact keysFit_text legal fit isKey text
  · refine fit.congr (get?_perform uses profile) fun slot isSlot key stored => ?_
    rwa [Profile.text?, get?_perform (fun both => uses (uses_wepKeyType_of_slot isSlot both)) profile] at stored

end Operation

theorem Profile.keysFit_after {operations : List Operation}
    (spares : ∀ operation ∈ operations, ¬operation.WritesKeyType) : (empty.after operations).KeysFit := by
  have both : (empty.after operations).Legal ∧ (empty.after operations).KeysFit := by
    apply after_invariant (fun after => after.Legal ∧ after.KeysFit) ?_ ⟨.empty, ?_⟩
    · rintro before operation here ⟨legal, fit⟩
      exact ⟨operation.legal_perform legal, operation.keysFit_perform legal fit (spares operation here)⟩
    · intro slot isSlot key stored
      cases stored
  exact both.2

/-- After any run, a key is refused just when it is no passphrase, or no key as it stands where keys are
to be such keys; a key that is set brings along a type that it fits and is the one in use from then on.
So after a run that never writes to the type itself, every stored key fits it. -/
theorem wepKeys_of_run (operations : List Operation) :
    let profile := Profile.empty.after operations
    (∀ property ∈ Catalogue.standard.properties, ∀ slot : Fin 4, property.setting = wirelessSecurity →
      WepKey.slotNames[slot]? = some property.name → ∀ (context : Context) (key : String),
      let outcome := property.set context profile (.text key)
      (outcome.error ≠ none ↔
        key = "" ∨ 64 < Text.byteLength key ∨
          profile.wepKeyType = .key ∧ WepKey.fits key .key = false) ∧
      (outcome.error = none → profile.TakesKey outcome.profile slot property.name key)) ∧
    ((∀ operation ∈ operations, ¬operation.WritesKeyType) → profile.KeysFit) := by
  intro profile
  refine ⟨fun property registered slot place name context key => ?_, Profile.keysFit_after⟩
  have legal : profile.Legal := (Reachable.empty.after operations).legal
  have isSlot : property.name ∈ WepKey.slotNames := List.mem_of_getElem? name
  obtain ⟨other, isKey⟩ := Catalogue.wepKey_of_slotName registered place isSlot
  -- the four names are different, so the slot is the one that the property is called after
  have same : other = slot := by
    have names := Catalogue.slotName_of_wepKey property registered other isKey
    have distinct : ∀ first second : Fin 4, WepKey.slotNames[first]? = WepKey.slotNames[second]? → first = second := by
      decide
    exact distinct other slot (names.trans name.symm)
  exact legal.set_wepKey registered (same ▸ isKey) context key

namespace Operation

def resetFirstKey : Operation := .clear (setFirstKey "").property (setFirstKey "").registered

end Operation

/-- A passphrase goes and leaves its type behind, so the key that follows is stored as a passphrase,
too. -/
theorem wepKeys_of_run_reset :
    let operations := [Operation.setFirstKey "a long passphrase", .resetFirstKey]
    let profile := Profile.empty.after operations
    let third := Settings.wifiSecurity.properties[10]
    let outcome := third.set { catalogue := .standard, freshUuid := ⟨7⟩ } profile (.text "12345")
    profile.wepKeyType = .passphrase ∧ profile.KeysFit ∧
      outcome.error = none ∧ profile.TakesKey outcome.profile 2 "wep-key2" "12345" ∧
      outcome.profile.wepKeyType = .passphrase := by
  intro operations profile third outcome
  have spares : ∀ operation ∈ operations, ¬operation.WritesKeyType := by
    have names : ∀ operation ∈ operations, operation.property.name ≠ "wep-key-type" := by decide +kernel
    exact fun operation here writes => names operation here writes.2.1
  have run := wepKeys_of_run operations
  have facts : profile.wepKeyType = .passphrase ∧ outcome.error = none ∧
      outcome.profile.wepKeyType = .passphrase := by decide +kernel
  have taken := (run.1 third (by decide +kernel) 2 (by decide +kernel) (by decide +kernel)
    { catalogue := .standard, freshUuid := ⟨7⟩ } "12345").2 facts.2.1
  exact ⟨facts.1, run.2 spares, facts.2.1, taken, facts.2.2⟩

end NetProfile
