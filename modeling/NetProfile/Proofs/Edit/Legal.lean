import NetProfile.Property.View
import NetProfile.Proofs.Contract.Form
import NetProfile.Proofs.Edit.Refusal
import NetProfile.Proofs.Net.Uuid

/-!
Legal profiles. Every field of a legal profile belongs to a registered property, and its value is one
that the property can read. A field then never meets a value of another kind, so the profile refuses
no change of an operation: an operation without a plan changes nothing, and one with a plan makes all
the changes of it.
-/

namespace NetProfile

def Fits (setting key : String) (value : Value) : Prop :=
  ∃ property ∈ Catalogue.standard.properties, property.setting = setting ∧ property.name = key ∧
    property.contract.Reads .standard value

def Profile.Legal (profile : Profile) : Prop :=
  ∀ setting key value, profile.get? setting key = some value → Fits setting key value

def Change.Legal : Change → Prop
  | .put setting key value => Fits setting key value
  | .reset .. | .ensure .. => True

namespace Fits

variable {setting key : String} {value other : Value}

theorem of_property {property : Property} (registered : property ∈ Catalogue.standard.properties)
    (reads : property.contract.Reads .standard value) : Fits property.setting property.name value :=
  ⟨property, registered, rfl, rfl, reads⟩

theorem reads {property : Property} (registered : property ∈ Catalogue.standard.properties)
    (fits : Fits property.setting property.name value) : property.contract.Reads .standard value := by
  obtain ⟨owner, known, sameSetting, sameName, reads⟩ := fits
  rw [Catalogue.property_unique registered known sameSetting.symm sameName.symm]
  exact reads

theorem same_kind (fits : Fits setting key value) (given : Fits setting key other) :
    value.kind = other.kind := by
  obtain ⟨property, registered, rfl, rfl, first⟩ := fits
  have second := given.reads registered
  rw [Contract.kind_of_reads first, Contract.kind_of_reads second]

end Fits

namespace Profile.Legal

variable {profile : Profile}

theorem empty : Profile.empty.Legal := by
  intro setting key value stored
  cases stored

theorem heldReads (legal : profile.Legal) {property : Property}
    (registered : property ∈ Catalogue.standard.properties) : property.HeldReads profile :=
  fun value stored => (legal _ _ value stored).reads registered

theorem accepts (legal : profile.Legal) {setting key : String} {value : Value}
    (fits : Fits setting key value) : profile.accepts setting key value = true := by
  unfold Profile.accepts
  split
  next held stored => exact beq_iff_eq.2 ((legal setting key held stored).same_kind fits)
  next => rfl

/-- The field of a property takes every value of the kind of the property. -/
theorem accepts_of_kind (legal : profile.Legal) {property : Property}
    (registered : property ∈ Catalogue.standard.properties) {value : Value}
    (kind : value.kind = property.contract.default.kind) :
    profile.accepts property.setting property.name value = true := by
  unfold Profile.accepts
  split
  next held stored =>
    have reads := (legal _ _ held stored).reads registered
    rw [kind, Contract.kind_of_reads reads, beq_self_eq_true]
  next => rfl

theorem change (legal : profile.Legal) {change : Change} (allowed : change.Legal) :
    ∃ after, profile.change change = (after, none) ∧ after.Legal := by
  cases change with
  | put setting key value =>
    refine ⟨_, write_of_accepts (legal.accepts allowed), ?_⟩
    intro other name found stored
    rw [get?_put] at stored
    split at stored
    next same =>
      cases stored
      rw [same.1, same.2]
      exact allowed
    next => exact legal other name found stored
  | reset setting key =>
    refine ⟨_, rfl, ?_⟩
    intro other name found stored
    rw [get?_reset] at stored
    split at stored
    next => cases stored
    next => exact legal other name found stored
  | ensure setting =>
    refine ⟨_, rfl, ?_⟩
    intro other name found stored
    rw [get?_ensure] at stored
    exact legal other name found stored

theorem changeAll (legal : profile.Legal) {changes : List Change}
    (allowed : ∀ change ∈ changes, change.Legal) :
    ∃ after, profile.changeAll changes = (after, none) ∧ after.Legal := by
  induction changes generalizing profile with
  | nil => exact ⟨profile, rfl, legal⟩
  | cons first rest ih =>
    obtain ⟨next, made, nextLegal⟩ := legal.change (allowed first List.mem_cons_self)
    obtain ⟨after, others, afterLegal⟩ :=
      ih nextLegal fun change here => allowed change (List.mem_cons_of_mem _ here)
    refine ⟨after, ?_, afterLegal⟩
    rw [Profile.changeAll, made]
    exact others

end Profile.Legal

theorem Property.set_text_of_writable {property : Property} (writable : property.isReadOnly = false)
    (context : Context) (profile : Profile) (text : String) :
    property.set context profile (.text text)
      = property.carryOut profile (Plan.setting context property profile text) := by
  simp only [set, writable, Bool.false_eq_true, if_false]

/-- What an edit amounts to that reads a value and puts it into the field of the property. -/
theorem Property.carryOut_map {α : Type} {property : Property} {profile : Profile} {value : α → Value}
    (accepts : ∀ read, profile.accepts property.setting property.name (value read) = true)
    (reading : Except Error α) :
    property.carryOut profile (reading.map fun read => Plan.putting property (value read)) =
      match reading with
      | .error error => { profile, error := some (error.withProperty property.name) }
      | .ok read => { profile := profile.put property.setting property.name (value read) } := by
  cases reading with
  | error error => rfl
  | ok read =>
    have made := Profile.write_of_accepts (accepts read)
    simp [Except.map, carryOut, Plan.run, Plan.putting, Profile.changeAll, Profile.change, made]

theorem fits_uuid (uuid : Uuid) : Fits "connection" "uuid" (.ofText uuid.toText) := by
  obtain ⟨property, registered, sameSetting, sameName, contract, -⟩ := Catalogue.regular_standard.uuid
  refine ⟨property, registered, sameSetting, sameName, ?_⟩
  have checked : TextRule.uuid.check uuid.toText = .ok uuid.toText := by
    simp only [TextRule.check, TextRule.readUuid, uuid.isUuid_toText, if_true]
  rw [contract]
  refine ⟨uuid.toText, ?_⟩
  simp only [Scalar.checked, Scalar.parse, Scalar.parseText, uuid.trim_toText,
    if_neg uuid.toText_ne_empty, checked]
  rfl

theorem fits_wepKeyType (type : WepKeyType) :
    Fits wirelessSecurity "wep-key-type" (.int type.number) := by
  obtain ⟨property, registered, sameSetting, sameName, contract⟩ := Catalogue.regular_standard.wepKeyType
  refine ⟨property, registered, sameSetting, sameName, ?_⟩
  rw [contract]
  cases type with
  | unknown => exact ⟨"0", by decide⟩
  | key => exact ⟨"1", by decide⟩
  | passphrase => exact ⟨"2", by decide⟩

theorem fits_wepIndex (slot : Fin 4) :
    Fits wirelessSecurity "wep-tx-keyidx" (.int (Int64.ofNat slot)) := by
  obtain ⟨property, registered, sameSetting, sameName, contract⟩ := Catalogue.regular_standard.wepIndex
  refine ⟨property, registered, sameSetting, sameName, ?_⟩
  rw [contract]
  have each : ∀ slot : Fin 4,
      Scalar.parse (.integer { width := .uint32, least := some 0, greatest := some 3 })
        (Numeral.decimal slot) = .ok (.int (Int64.ofNat slot)) := by decide
  exact ⟨_, each slot⟩

variable {profile : Profile} {operation : Operation}

theorem typeChanges_legal {property : Property} (registered : property ∈ Catalogue.standard.properties)
    (isType : property.contract = .special .connectionType) {setting : Setting}
    (known : setting ∈ Catalogue.standard.types) (uuid : Uuid) :
    ∀ change ∈ property.typeChanges setting uuid, change.Legal := by
  intro change here
  rcases Property.mem_typeChanges here with rfl | rfl | ⟨part, rfl⟩
  · apply Fits.of_property registered
    rw [isType]
    exact ⟨setting, known, rfl⟩
  · rw [((Catalogue.regular_of_mem registered).type.1 isType).1]
    exact fits_uuid uuid
  · trivial

theorem wepKeyChanges_legal {property : Property} (registered : property ∈ Catalogue.standard.properties)
    {slot : Fin 4} (isKey : property.contract = .special (.wepKey slot)) {key : String}
    {type : WepKeyType} (fits : WepKey.fits key type = true) (known : type ≠ .unknown)
    (moved : Prop) [Decidable moved] :
    ∀ change ∈ property.wepKeyChanges slot key type moved, change.Legal := by
  have place := (Catalogue.regular_of_mem registered).wepKey slot isKey
  intro change here
  rcases Property.mem_wepKeyChanges here with rfl | rfl | rfl
  · apply Fits.of_property registered
    rw [isKey]
    cases type with
    | unknown => exact absurd rfl known
    | key => exact .inl fits
    | passphrase => exact .inr fits
  · rw [place]
    exact fits_wepKeyType type
  · rw [place]
    exact fits_wepIndex slot

theorem Effect.legal {property : Property} (registered : property ∈ Catalogue.standard.properties)
    (legal : profile.Legal) {changes : List Change} (effect : Effect property profile changes) :
    ∀ change ∈ changes, change.Legal := by
  cases effect with
  | nothing => simp
  | reset => simp [Change.Legal]
  | put value notType writable reads =>
    simp only [List.mem_singleton, forall_eq]
    exact .of_property registered (reads (legal.heldReads registered))
  | type setting uuid isType free known => exact typeChanges_legal registered isType known uuid
  | wepKey slot key type moved isKey fits known =>
    exact wepKeyChanges_legal registered isKey fits known moved

namespace Operation

theorem perform_of_error {error : Error} (failed : operation.plan profile = .error error) :
    operation.perform profile
      = { profile, error := some (error.withProperty operation.property.name) } := by
  rw [perform_eq_carryOut, failed]
  rfl

theorem perform_of_plan (legal : profile.Legal) {plan : Plan}
    (planned : operation.plan profile = .ok plan) :
    ∃ after, profile.changeAll plan.changes = (after, none) ∧
      operation.perform profile
        = { profile := after, advisories := plan.advisories ++ plan.reminders } := by
  obtain ⟨after, made, -⟩ :=
    legal.changeAll ((effect_of_plan planned).legal operation.registered legal)
  refine ⟨after, made, ?_⟩
  rw [perform_eq_carryOut, planned, Property.carryOut, Plan.run, made]
  rfl

/-- Whatever happens, the profile afterwards comes from an effect whose changes have all been made. -/
theorem effect_of_perform (legal : profile.Legal) (operation : Operation) :
    ∃ changes, Effect operation.property profile changes ∧
      profile.changeAll changes = ((operation.perform profile).profile, none) := by
  cases planned : operation.plan profile with
  | error error =>
    refine ⟨[], .nothing, ?_⟩
    rw [perform_of_error planned]
    rfl
  | ok plan =>
    obtain ⟨after, made, performed⟩ := perform_of_plan legal planned
    refine ⟨plan.changes, effect_of_plan planned, ?_⟩
    rw [made, performed]

theorem legal_perform (legal : profile.Legal) (operation : Operation) :
    (operation.perform profile).profile.Legal := by
  obtain ⟨changes, effect, made⟩ := effect_of_perform legal operation
  obtain ⟨after, same, afterLegal⟩ := legal.changeAll (effect.legal operation.registered legal)
  rw [made] at same
  cases same
  exact afterLegal

/-- An error of an operation is the one that left it without a plan. -/
theorem plan_eq_error (legal : profile.Legal) {error : Error}
    (failed : (operation.perform profile).error = some error) :
    ∃ reason, operation.plan profile = .error reason ∧
      error = reason.withProperty operation.property.name := by
  cases planned : operation.plan profile with
  | error reason =>
    rw [perform_of_error planned] at failed
    cases failed
    exact ⟨reason, rfl, rfl⟩
  | ok plan =>
    obtain ⟨after, -, performed⟩ := perform_of_plan legal planned
    rw [performed] at failed
    cases failed

end Operation

namespace Reachable

theorem legal (reached : Reachable profile) : profile.Legal := by
  induction reached with
  | empty => exact .empty
  | step reached operation ih => exact Operation.legal_perform ih operation

/-- An operation that fails changes nothing and says nothing, and its error names the property. -/
theorem unchanged_of_error (reached : Reachable profile) (operation : Operation) {error : Error}
    (failed : (operation.perform profile).error = some error) :
    (operation.perform profile).profile = profile ∧ (operation.perform profile).advisories = [] ∧
      error.property? = some operation.property.name := by
  obtain ⟨reason, planless, rfl⟩ := Operation.plan_eq_error reached.legal failed
  have named := (Catalogue.regular_of_mem operation.registered).named
  rw [Operation.perform_of_error planless]
  exact ⟨rfl, rfl, (Operation.ofPlan_of_error planless).property?_withProperty named⟩

/-- A second type is refused. -/
theorem unchanged_of_error_second_type :
    let profile := ((Operation.setType ⟨7⟩ "wifi").perform .empty).profile
    let operation := Operation.setType ⟨8⟩ "ethernet"
    (operation.perform profile).error
        = some { cause := .immutable .typeIsFixed, owner := some "type" } ∧
      (operation.perform profile).profile = profile ∧ (operation.perform profile).advisories = [] :=
  have failed : ((Operation.setType ⟨8⟩ "ethernet").perform
      ((Operation.setType ⟨7⟩ "wifi").perform .empty).profile).error
        = some { cause := .immutable .typeIsFixed, owner := some "type" } := by decide +kernel
  have kept := unchanged_of_error (.step .empty (Operation.setType ⟨7⟩ "wifi"))
    (Operation.setType ⟨8⟩ "ethernet") failed
  ⟨failed, kept.1, kept.2.1⟩

end Reachable

structure Property.Holds (property : Property) (value : Value) : Prop where
  kind : value.kind = property.default.kind
  reads : property.contract.Reads .standard value
  admits : property.contract.Admits .standard value

theorem Fits.holds {setting key : String} {value : Value} (fits : Fits setting key value) :
    ∃ property ∈ Catalogue.standard.properties, property.setting = setting ∧ property.name = key ∧
      property.Holds value := by
  obtain ⟨property, registered, sameSetting, sameName, reads⟩ := fits
  refine ⟨property, registered, sameSetting, sameName, ?_, reads, ?_⟩
  · rw [(Catalogue.regular_of_mem registered).usual]
    exact Contract.kind_of_reads reads
  · exact Contract.admits_of_reads (Catalogue.regular_of_mem registered).sound reads

/-- Stored or default, the value of a property has the kind of its contract. -/
theorem Profile.Legal.kind_value (legal : profile.Legal) {property : Property}
    (registered : property ∈ Catalogue.standard.properties) :
    (property.value profile).kind = property.contract.default.kind := by
  unfold Property.value
  cases stored : profile.get? property.setting property.name with
  | none => exact (Catalogue.regular_of_mem registered).usual
  | some value => exact Contract.kind_of_reads ((legal _ _ value stored).reads registered)

/-- Every field that a run has stored is legal in its property, so that no operation fails because of
what is stored and every value is shown in the form of its property. -/
theorem Reachable.wellTyped (reached : Reachable profile) :
    (∀ setting key value, profile.get? setting key = some value →
      ∃ property ∈ Catalogue.standard.properties, property.setting = setting ∧ property.name = key ∧
        property.Holds value) ∧
    (∀ (operation : Operation) (error : Error), (operation.perform profile).error = some error →
      ∀ fault, error.cause ≠ .refused fault) ∧
    (∀ property ∈ Catalogue.standard.properties, ∀ (mode : Mode) (reveal : Bool), ∃ text,
      property.contract.form? mode (property.value profile) = some text ∧
        (property.render profile mode reveal).text
          = if property.isSecret && !reveal then hiddenText else text) := by
  refine ⟨?_, ?_, ?_⟩
  · intro setting key value stored
    exact (reached.legal setting key value stored).holds
  · intro operation error failed fault
    obtain ⟨reason, planless, rfl⟩ := Operation.plan_eq_error reached.legal failed
    exact (Operation.ofPlan_of_error planless).cause_ne_refused _ fault
  · intro property registered mode reveal
    have formed := Contract.form?_isSome (reached.legal.kind_value registered) mode
    obtain ⟨text, shown⟩ := Option.isSome_iff_exists.1 formed
    refine ⟨text, shown, ?_⟩
    unfold Property.render
    split
    next => rfl
    next =>
      rw [Contract.format_eq_form?, shown]
      rfl

/-- The name of the type is stored in full, as its property demands. -/
theorem Reachable.wellTyped_wifi :
    let profile := ((Operation.setType ⟨7⟩ "wifi").perform .empty).profile
    profile.get? "connection" "type" = some (.ofText "802-11-wireless") ∧
      ∃ property ∈ Catalogue.standard.properties, property.setting = "connection" ∧
        property.name = "type" ∧ property.Holds (.ofText "802-11-wireless") :=
  have stored : ((Operation.setType ⟨7⟩ "wifi").perform .empty).profile.get? "connection" "type"
      = some (.ofText "802-11-wireless") := by decide +kernel
  have fields := (wellTyped (.step .empty (Operation.setType ⟨7⟩ "wifi"))).1
  ⟨stored, fields "connection" "type" _ stored⟩

end NetProfile
