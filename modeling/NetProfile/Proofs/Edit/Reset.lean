import NetProfile.Proofs.Edit.Run
import NetProfile.Proofs.Profile.Commute
import NetProfile.Proofs.Settings.Standard
import NetProfile.Property.View

/-!
Resetting properties. A reset is refused where a property is fixed; everywhere else it empties the
field of the property, whatever the field held, and leaves all the rest of the profile as it was.
-/

namespace NetProfile

namespace Profile

theorem settingNames_reset (profile : Profile) (setting key : String) :
    (profile.reset setting key).settingNames = profile.settingNames :=
  settingNames_eq_iff.2 (hasSetting_reset profile setting key)

theorem reset_of_empty {profile : Profile} {setting key : String}
    (empty : profile.get? setting key = none) : profile.reset setting key = profile := by
  apply ext_fields (hasSetting_reset profile setting key)
  intro other name
  rw [get?_reset]
  split
  · next here =>
    rw [here.1, here.2, empty]
  · rfl

end Profile

namespace Property

/-- The property is read-only, or it is the type of a profile that has an identifier. -/
def IsFixed (property : Property) (profile : Profile) : Prop :=
  property.isReadOnly = true ∨ property.setting = "connection" ∧ property.name = "type" ∧
    ∃ uuid, profile.get? "connection" "uuid" = some (.ofText uuid)

structure ResetsTo (property : Property) (before after : Profile) : Prop where
  emptied : after.get? property.setting property.name = none
  isDefault : property.isDefault after = true
  value : property.value after = property.default
  others : ∀ setting key, ¬(setting = property.setting ∧ key = property.name) →
    after.get? setting key = before.get? setting key
  settings : after.settingNames = before.settingNames

section Registered

variable {property : Property} (registered : property ∈ Catalogue.standard.properties)

include registered

theorem resetsTo_reset (profile : Profile) :
    property.ResetsTo profile (profile.reset property.setting property.name) := by
  have emptied : (profile.reset property.setting property.name).get? property.setting property.name
      = none := by
    rw [Profile.get?_reset, if_pos ⟨rfl, rfl⟩]
  have value : property.value (profile.reset property.setting property.name) = property.default := by
    rw [Property.value, emptied]
    rfl
  refine ⟨emptied, ?_, value, fun setting key other => ?_, Profile.settingNames_reset ..⟩
  · rw [Property.isDefault, value]
    exact Catalogue.isDefault_default property registered
  · rw [Profile.get?_reset, if_neg other]

theorem checkTypeFree_cases (writable : property.isReadOnly = false)
    (isType : property.contract = .special .connectionType) (profile : Profile) :
    Plan.checkTypeFree property profile = .ok () ∧ ¬property.IsFixed profile ∨
      Plan.checkTypeFree property profile = .error { cause := .immutable .typeIsFixed } ∧
        property.IsFixed profile := by
  obtain ⟨setting, name⟩ := (Catalogue.regular_of_mem registered).type.1 isType
  unfold Plan.checkTypeFree IsFixed Profile.text?
  rw [writable, setting]
  cases stored : profile.get? "connection" "uuid" with
  | none => simp
  | some held =>
    cases held with
    | text given => cases given <;> simp [Value.text?, Value.ofText, name]
    | bool | int | octets | list | map | slots | dnsOptions => simp [Value.text?, Value.ofText]

theorem set_reset_of_fixed {profile : Profile} (fixed : property.IsFixed profile) (context : Context) :
    ∃ fault, property.set context profile .reset =
      { profile, error := some { cause := .immutable fault, owner := some property.name } } := by
  have regular := Catalogue.regular_of_mem registered
  have owned : ∀ fault, ({ cause := .immutable fault } : Error).withProperty property.name
      = { cause := .immutable fault, owner := some property.name } := by
    intro fault
    simp [Error.withProperty, Cause.isLocal, regular.named]
  cases writable : property.isReadOnly with
  | true =>
    refine ⟨.readOnly property.name, ?_⟩
    simp only [set, writable, if_true, set.refuseReadOnly, carryOut, owned]
  | false =>
    rcases fixed with readOnly | ⟨setting, name, held⟩
    · rw [writable] at readOnly
      cases readOnly
    · have isType := regular.type.2 ⟨setting, name⟩
      refine ⟨.typeIsFixed, ?_⟩
      rcases checkTypeFree_cases registered writable isType profile with ⟨-, free⟩ | ⟨refused, -⟩
      · exact absurd (.inr ⟨setting, name, held⟩) free
      · simp only [set, writable, Plan.resetting, isType, refused, carryOut]
        exact congrArg (fun error => ({ profile, error := some error } : Outcome)) (owned _)

theorem set_reset_of_free {profile : Profile} (free : ¬property.IsFixed profile) (context : Context) :
    property.set context profile .reset
      = { profile := profile.reset property.setting property.name } := by
  have writable : property.isReadOnly = false := Bool.eq_false_iff.2 fun readOnly => free (.inl readOnly)
  have planned : Plan.resetting property profile
      = .ok { changes := [.reset property.setting property.name] } := by
    unfold Plan.resetting
    by_cases isType : property.contract = .special .connectionType
    · rcases checkTypeFree_cases registered writable isType profile with ⟨passed, -⟩ | ⟨-, fixed⟩
      · rw [if_pos isType, passed]
        rfl
      · exact absurd fixed free
    · rw [if_neg isType]
      rfl
  simp only [set, writable, planned]
  rfl

/-- A reset of a fixed property is refused and changes nothing. Of any other property it takes the
stored value away, of whatever kind that is, and nothing else; a second reset finds nothing to do. -/
theorem set_reset_cases (context : Context) (profile : Profile) :
    (property.IsFixed profile ∧ ∃ fault, property.set context profile .reset =
        { profile, error := some { cause := .immutable fault, owner := some property.name } }) ∨
      ¬property.IsFixed profile ∧ ∃ after, property.set context profile .reset = { profile := after } ∧
        property.ResetsTo profile after ∧
        ∀ later : Context, property.set later after .reset = { profile := after } := by
  by_cases fixed : property.IsFixed profile
  · exact .inl ⟨fixed, set_reset_of_fixed registered fixed context⟩
  · have done := resetsTo_reset registered profile
    -- the identifier is another field than the type, so the type is as free as it was before
    have stillFree : ¬property.IsFixed (profile.reset property.setting property.name) := by
      rintro (readOnly | ⟨setting, name, held⟩)
      · exact fixed (.inl readOnly)
      · rw [done.others _ _ fun uuid => by simp [name] at uuid] at held
        exact fixed (.inr ⟨setting, name, held⟩)
    refine .inr ⟨fixed, _, set_reset_of_free registered fixed context, done, fun later => ?_⟩
    rw [set_reset_of_free registered stillFree, Profile.reset_of_empty done.emptied]

end Registered

/-- The type is fixed by the text of an identifier, but not by a number in its place. -/
theorem set_reset_cases_type :
    let context : Context := { catalogue := .standard, freshUuid := ⟨0⟩ }
    let typed := (Operation.setType ⟨7⟩ "wifi").perform .empty |>.profile
    let strange := (Profile.empty.put "connection" "type" (.bool true)).put "connection" "uuid" (.int 7)
    Operation.typeProperty ∈ Catalogue.standard.properties ∧
      (∃ fault, Operation.typeProperty.set context typed .reset =
        { profile := typed, error := some { cause := .immutable fault, owner := some "type" } }) ∧
      ∃ after, Operation.typeProperty.set context strange .reset = { profile := after } ∧
        Operation.typeProperty.ResetsTo strange after ∧ after ≠ strange := by
  intro context typed strange
  have registered : Operation.typeProperty ∈ Catalogue.standard.properties := by decide +kernel
  refine ⟨registered, ?_, ?_⟩
  · rcases set_reset_cases registered context typed with ⟨-, refused⟩ | ⟨free, -⟩
    · exact refused
    · have stored : typed.get? "connection" "uuid" = some (.ofText (Uuid.toText ⟨7⟩)) := by decide +kernel
      exact absurd (.inr ⟨by decide +kernel, by decide +kernel, _, stored⟩) free
  · rcases set_reset_cases registered context strange with ⟨fixed, -⟩ | ⟨-, after, reset, done, -⟩
    · have stored : strange.get? "connection" "uuid" = some (.int 7) := by decide +kernel
      rcases fixed with readOnly | ⟨-, -, uuid, text⟩
      · exact absurd readOnly (by decide +kernel)
      · rw [stored] at text
        cases text
    · refine ⟨after, reset, done, ?_⟩
      rintro rfl
      exact absurd done.emptied (by decide +kernel)

end Property

end NetProfile
