import NetProfile.Proofs.Profile.Commute
import NetProfile.Proofs.Settings.Standard
import NetProfile.Property.View

/-!
Profiles whose secrets are cleared. What is left are the settings and the fields that are no secrets,
so two profiles are cleared to the same one exactly if nothing but secrets told them apart.
-/

namespace NetProfile

namespace Profile

variable (isSecret : String → String → Bool)

theorem settingNames_clearSecrets (profile : Profile) :
    (profile.clearSecrets isSecret).settingNames = profile.settingNames :=
  Dict.keys_mapValues ..

theorem get?_cleared (profile : Profile) (setting key : String) :
    (profile.clearSecrets isSecret).get? setting key =
      if isSecret setting key then none else profile.get? setting key := by
  rw [get?_clearSecrets]
  cases profile.get? setting key <;> cases isSecret setting key <;> rfl

theorem clearSecrets_eq_iff {left right : Profile} :
    left.clearSecrets isSecret = right.clearSecrets isSecret ↔
      left.settingNames = right.settingNames ∧ ∀ setting key, isSecret setting key = false →
        left.get? setting key = right.get? setting key := by
  constructor
  · intro same
    refine ⟨?_, fun setting key shown => ?_⟩
    · rw [← settingNames_clearSecrets isSecret left, same, settingNames_clearSecrets]
    · have kept := get?_cleared isSecret left setting key
      rw [same, get?_cleared, shown] at kept
      exact kept.symm
  · rintro ⟨settings, fields⟩
    apply ext_fields
    · apply settingNames_eq_iff.1
      rw [settingNames_clearSecrets, settingNames_clearSecrets, settings]
    · intro setting key
      rw [get?_cleared, get?_cleared]
      cases shown : isSecret setting key with
      | true => rfl
      | false => exact fields setting key shown

theorem clearSecrets_clearSecrets (profile : Profile) :
    (profile.clearSecrets isSecret).clearSecrets isSecret = profile.clearSecrets isSecret := by
  refine (clearSecrets_eq_iff isSecret).2 ⟨settingNames_clearSecrets isSecret profile, ?_⟩
  intro setting key shown
  rw [get?_cleared, shown]
  rfl

end Profile

/-- A property whose field is empty shows its default to whoever may see it. -/
theorem Property.render_of_empty {property : Property}
    (registered : property ∈ Catalogue.standard.properties) {profile : Profile}
    (empty : profile.get? property.setting property.name = none) (mode : Mode) :
    property.render profile mode true = ⟨property.contract.format mode property.default, true⟩ := by
  have value : property.value profile = property.default := by
    rw [Property.value, empty]
    rfl
  rw [render, Bool.not_true, Bool.and_false, if_neg Bool.false_ne_true, isDefault, value,
    Catalogue.isDefault_default property registered]

namespace Profile

/-- Clearing the secrets of a profile keeps its settings and just the fields that are no secrets. Of
profiles with these settings, those and only those that differ in secrets alone are cleared to the same
one, in which each secret property shows its default. -/
theorem clearSecrets_standard (profile : Profile) :
    let cleared := profile.clearSecrets Catalogue.standard.isSecret
    cleared.settingNames = profile.settingNames ∧
    (∀ setting key, cleared.get? setting key =
      if Catalogue.standard.isSecret setting key then none else profile.get? setting key) ∧
    cleared.clearSecrets Catalogue.standard.isSecret = cleared ∧
    (∀ other : Profile, other.clearSecrets Catalogue.standard.isSecret = cleared ↔
      other.settingNames = profile.settingNames ∧
        ∀ setting key, Catalogue.standard.isSecret setting key = false →
          other.get? setting key = profile.get? setting key) ∧
    ∀ property ∈ Catalogue.standard.properties, property.isSecret = true → ∀ mode,
      property.render cleared mode true = ⟨property.contract.format mode property.default, true⟩ := by
  intro cleared
  refine ⟨settingNames_clearSecrets _ profile, get?_cleared _ profile, clearSecrets_clearSecrets _ profile,
    fun other => clearSecrets_eq_iff _, fun property registered secret mode => ?_⟩
  have empty : cleared.get? property.setting property.name = none := by
    rw [get?_cleared, Catalogue.isSecret_of_mem registered, secret]
    rfl
  exact property.render_of_empty registered empty mode

def wirelessKey : Property := Settings.wifiSecurity.properties[14]

def withKeys (key shortKey : Value) : Profile :=
  empty.put wirelessSecurity "key-mgmt" (.ofText "wpa-psk")
    |>.put wirelessSecurity "psk" key
    |>.put "wifi-sec" "psk" shortKey
    |>.put "other" "psk" (.ofText "kept")

theorem get?_withKeys {setting key : String} (notSecret : Catalogue.standard.isSecret setting key = false)
    (full short otherFull otherShort : Value) :
    (withKeys full short).get? setting key = (withKeys otherFull otherShort).get? setting key := by
  simp only [withKeys, get?_put]
  by_cases own : setting = wirelessSecurity ∧ key = "psk"
  · rw [own.1, own.2] at notSecret
    exact absurd notSecret (by decide +kernel)
  · by_cases shortened : setting = "wifi-sec" ∧ key = "psk"
    · rw [shortened.1, shortened.2] at notSecret
      exact absurd notSecret (by decide +kernel)
    · rw [if_neg own, if_neg own, if_neg shortened, if_neg shortened]

/-- Keys are cleared under either name of their setting and whatever their kind. -/
theorem clearSecrets_standard_keys :
    let left := withKeys (.ofText "hunter22") (.int 5)
    let right := withKeys (.octets none) (.ofText "")
    let cleared := left.clearSecrets Catalogue.standard.isSecret
    left ≠ right ∧ right.clearSecrets Catalogue.standard.isSecret = cleared ∧
      cleared.settingNames = [wirelessSecurity, "other", "wifi-sec"] ∧
      cleared.get? "wifi-sec" "psk" = none ∧ cleared.get? "other" "psk" = some (.ofText "kept") ∧
      wirelessKey.render left .parsable true = ⟨"hunter22", false⟩ ∧
      wirelessKey.render cleared .parsable true = ⟨"", true⟩ := by
  intro left right cleared
  obtain ⟨settings, fields, -, same, shown⟩ := clearSecrets_standard left
  have registered : wirelessKey ∈ Catalogue.standard.properties := by decide +kernel
  refine ⟨by decide +kernel, ?_, ?_, ?_, ?_, by decide +kernel, ?_⟩
  · exact (same right).2 ⟨by decide +kernel, fun setting key notSecret => get?_withKeys notSecret ..⟩
  · exact settings.trans (by decide +kernel)
  · exact (fields "wifi-sec" "psk").trans (by decide +kernel)
  · exact (fields "other" "psk").trans (by decide +kernel)
  · exact (shown wirelessKey registered (by decide +kernel) .parsable).trans (by decide +kernel)

end Profile

end NetProfile
