import NetProfile.Proofs.Edit.Footprint
import NetProfile.Proofs.Edit.Legal

/-!
Companion fields. A type is written together with the identifier, and a WEP key with its type and its
index. The companions come last, so a companion that holds a value of another kind refuses the new
one when the own field has been written already. No other failure leaves a change behind.
-/

namespace NetProfile

/-- The keys of the setting that a text for the property is written to besides its own. -/
def Property.companions (property : Property) : List String :=
  match property.contract with
  | .special .connectionType => ["uuid"]
  | .special (.wepKey _) => ["wep-key-type", "wep-tx-keyidx"]
  | _ => []

theorem Property.name_not_mem_companions {property : Property}
    (registered : property ∈ Catalogue.standard.properties) : property.name ∉ property.companions := by
  unfold companions
  split
  · next isType =>
    rw [((Catalogue.regular_of_mem registered).type.1 isType).2]
    decide
  · next slot isKey =>
    have slotName := List.mem_of_getElem? (Catalogue.slotName_of_wepKey property registered slot isKey)
    have apart : ∀ name ∈ WepKey.slotNames, name ∉ ["wep-key-type", "wep-tx-keyidx"] := by decide
    exact apart _ slotName
  · exact List.not_mem_nil

/-- Where no two changes are made to one field, the field that refuses a value has not been touched. -/
theorem Profile.refused_of_apart {profile after : Profile} {changes : List Change} {error : Error}
    (apart : changes.Pairwise Change.Apart) (refused : profile.changeAll changes = (after, some error)) :
    ∃ made setting key held given rest, changes = made ++ .put setting key given :: rest ∧
      after = (profile.changeAll made).1 ∧ profile.get? setting key = some held ∧
      held.kind ≠ given.kind ∧ error = refusal key held given := by
  obtain ⟨made, change, rest, before, shape, makes, last⟩ := changeAll_refused refused
  obtain ⟨stays, setting, key, held, given, rfl, stored, different, same⟩ := change_refused last
  refine ⟨made, setting, key, held, given, rest, shape, ?_, ?_, different, same⟩
  · rw [stays, makes]
  · rw [shape] at apart
    have untouched : ∀ earlier ∈ made, ¬earlier.Touches setting key := by
      intro earlier here touched
      exact (List.pairwise_append.1 apart).2.2 earlier here _ List.mem_cons_self setting key touched ⟨rfl, rfl⟩
    have kept := get?_changeAll untouched profile
    rw [makes] at kept
    rw [← kept]
    exact stored

namespace Effect

variable {property : Property} {profile : Profile} {changes : List Change}

/-- No operation makes two changes to one field. -/
theorem apart (effect : Effect property profile changes)
    (registered : property ∈ Catalogue.standard.properties) : changes.Pairwise Change.Apart := by
  have own := Property.name_not_mem_companions registered
  -- the own field is none of the companions
  have first : ∀ {value : Value} {key : String} {given : Value}, key ∈ property.companions →
      Change.Apart (.put property.setting property.name value) (.put property.setting key given) := by
    rintro value key given companion setting name ⟨rfl, rfl⟩ ⟨-, same⟩
    exact own (same ▸ companion)
  cases effect with
  | nothing => exact .nil
  | reset | put => exact List.pairwise_singleton _ _
  | type type uuid isType =>
    have ensured : ∀ earlier : Change, ∀ change ∈ type.mandatoryParts.map Change.ensure, earlier.Apart change := by
      intro earlier change here
      obtain ⟨part, -, rfl⟩ := List.mem_map.1 here
      exact fun _ _ _ touched => touched
    have parts : (type.mandatoryParts.map Change.ensure).Pairwise Change.Apart :=
      List.pairwise_of_forall_mem_list fun earlier _ change here => ensured earlier change here
    refine List.pairwise_cons.2 ⟨?_, List.pairwise_cons.2 ⟨ensured _, parts⟩⟩
    intro change here
    rcases List.mem_cons.1 here with rfl | here
    · exact first (by simp [Property.companions, isType])
    · exact ensured _ change here
  | wepKey slot key type moved isKey =>
    have companions : property.companions = ["wep-key-type", "wep-tx-keyidx"] := by
      simp [Property.companions, isKey]
    have typeAndIndex : Change.Apart (.put property.setting "wep-key-type" (.int type.number))
        (.put property.setting "wep-tx-keyidx" (.int (Int64.ofNat slot))) := by
      rintro setting name ⟨-, rfl⟩ ⟨-, same⟩
      exact absurd same (by decide)
    unfold Property.wepKeyChanges
    split
    · simp [first, companions, typeAndIndex]
    · simp [first, companions]

/-- After the first change come those to the companions, and settings that are made sure of. -/
theorem companion_of_mem_tail (effect : Effect property profile changes)
    (registered : property ∈ Catalogue.standard.properties) {setting key : String} {given : Value}
    (here : .put setting key given ∈ changes.tail) :
    setting = property.setting ∧ key ∈ property.companions ∧ Fits setting key given := by
  have regular := Catalogue.regular_of_mem registered
  cases effect with
  | nothing | reset | put => cases here
  | type type uuid isType =>
    have place := (regular.type.1 isType).1
    rcases List.mem_cons.1 here with same | here
    · cases same
      refine ⟨rfl, by simp [Property.companions, isType], ?_⟩
      rw [place]
      exact fits_uuid uuid
    · obtain ⟨part, -, same⟩ := List.mem_map.1 here
      cases same
  | wepKey slot text type moved isKey =>
    have place := regular.wepKey slot isKey
    rcases List.mem_cons.1 here with same | here
    · cases same
      refine ⟨rfl, by simp [Property.companions, isKey], ?_⟩
      rw [place]
      exact fits_wepKeyType type
    · split at here
      · cases List.mem_singleton.1 here
        refine ⟨rfl, by simp [Property.companions, isKey], ?_⟩
        rw [place]
        exact fits_wepIndex slot
      · cases here

end Effect

theorem Fits.key_ne_empty {setting key : String} {value : Value} (fits : Fits setting key value) : key ≠ "" := by
  obtain ⟨property, registered, -, rfl, -⟩ := fits
  exact (Catalogue.regular_of_mem registered).named

namespace Operation

/-- Where an operation fails, the profile stays as it is, whatever its fields hold, unless a
companion of the property holds a value of another kind and refuses the new one. -/
theorem unchanged_or_refused (operation : Operation) {profile : Profile} {error : Error}
    (failed : (operation.perform profile).error = some error) :
    (operation.perform profile).profile = profile ∨
      ∃ key ∈ operation.property.companions, ∃ held given : Value,
        profile.get? operation.property.setting key = some held ∧
        Fits operation.property.setting key given ∧ held.kind ≠ given.kind ∧
        error = Profile.refusal key held given := by
  rw [profile_perform]
  rw [error_perform] at failed
  cases moved : operation.moves profile with
  | error reason => exact .inl rfl
  | ok changes =>
    rw [moved] at failed
    obtain ⟨reason, refused, rfl⟩ := Option.map_eq_some_iff.1 failed
    obtain ⟨plan, planned, rfl⟩ := Reading.map_eq_ok moved
    have effect := effect_of_plan planned
    obtain ⟨made, setting, key, held, given, rest, shape, after, stored, different, rfl⟩ :=
      Profile.refused_of_apart (effect.apart operation.registered) (Prod.ext rfl refused)
    cases made with
    | nil => exact .inl after
    | cons first made =>
      -- something has been written already, so a companion refuses
      have later : .put setting key given ∈ plan.changes.tail := by simp [shape]
      obtain ⟨rfl, companion, fits⟩ := effect.companion_of_mem_tail operation.registered later
      refine .inr ⟨key, companion, held, given, stored, fits, different, ?_⟩
      exact Error.withProperty_withProperty _ _ _ fits.key_ne_empty

def setFirstKey (text : String) : Operation :=
  .assign Settings.wifiSecurity.properties[8] (by decide +kernel) text

/-- An identifier that has been read as a number is no text. -/
theorem unchanged_or_refused_type :
    let profile := Profile.empty.put "connection" "uuid" (.int 5)
    let operation := setType ⟨7⟩ "wifi"
    (operation.perform profile).profile ≠ profile ∧
      ∃ key ∈ operation.property.companions, ∃ held given : Value,
        profile.get? "connection" key = some held ∧ held.kind ≠ given.kind ∧
        (operation.perform profile).error = some (Profile.refusal key held given) := by
  intro profile operation
  have failed : (operation.perform profile).error
      = some (Profile.refusal "uuid" (.int 5) (.ofText (Uuid.toText ⟨7⟩))) := by decide +kernel
  have changed : (operation.perform profile).profile ≠ profile := by decide +kernel
  obtain ⟨key, companion, held, given, stored, -, different, error⟩ :=
    (unchanged_or_refused operation failed).resolve_left changed
  exact ⟨changed, key, companion, held, given, stored, different, error ▸ failed⟩

/-- A failing operation can leave a change behind: the type of keys has been read as a text and
refuses a number, but the key stays. -/
theorem key_written_without_type :
    let profile := Profile.empty.put wirelessSecurity "wep-key-type" (.ofText "key")
    let outcome := (setFirstKey "abcde").perform profile
    outcome.error = some (Profile.refusal "wep-key-type" (.ofText "key") (.int 1)) ∧
      outcome.profile = profile.put wirelessSecurity "wep-key0" (.ofText "abcde") ∧
      outcome.profile ≠ profile := by
  decide +kernel

end Operation

end NetProfile
