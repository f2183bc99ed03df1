import NetProfile.Proofs.Edit.Footprint

/-!
Operations on different properties. Each uses fields of its own, unless both belong to the WEP keys,
so neither notices whether the other has been performed.
-/

namespace NetProfile

namespace Property

/-- The WEP keys, their type and the index of the key in use. -/
def IsWep (property : Property) : Prop :=
  property.setting = wirelessSecurity ∧
    property.name ∈ "wep-key-type" :: "wep-tx-keyidx" :: WepKey.slotNames

/-- A property uses its own field, or belongs to a group of which it uses another field. -/
theorem cases_of_uses {property : Property} (registered : property ∈ Catalogue.standard.properties)
    {setting key : String} (uses : property.Uses setting key) :
    setting = property.setting ∧
      (key = property.name ∧ (property.isReadOnly = false ∨ ∀ scalar, property.contract ≠ .scalar scalar) ∨
        property.setting = "connection" ∧ property.name = "type" ∧ key = "uuid" ∨
        property.IsWep ∧ key ∈ ["wep-key-type", "wep-tx-keyidx"]) := by
  obtain ⟨place, uses⟩ := uses
  refine ⟨place, ?_⟩
  have regular := Catalogue.regular_of_mem registered
  unfold used at uses
  split at uses
  · split at uses
    · cases uses
    · next writable => exact .inl ⟨List.mem_singleton.1 uses, .inl (by simpa using writable)⟩
  · next notScalar =>
    rcases List.mem_cons.1 uses with own | looked
    · exact .inl ⟨own, .inr notScalar⟩
    · unfold Property.looked at looked
      split at looked
      · exact .inl ⟨List.mem_singleton.1 looked, .inr notScalar⟩
      · exact .inl ⟨List.mem_singleton.1 looked, .inr notScalar⟩
      · exact .inl ⟨List.mem_singleton.1 looked, .inr notScalar⟩
      · next isType =>
        obtain ⟨connection, type⟩ := regular.type.1 isType
        exact .inr (.inl ⟨connection, type, List.mem_singleton.1 looked⟩)
      · next slot isKey =>
        have slotName := List.mem_of_getElem? (Catalogue.slotName_of_wepKey property registered slot isKey)
        have wep : property.IsWep :=
          ⟨regular.wepKey slot isKey, List.mem_cons_of_mem _ (List.mem_cons_of_mem _ slotName)⟩
        exact .inr (.inr ⟨wep, looked⟩)
      · cases looked

/-- The identifier is read-only, so only the type uses it. -/
theorem not_uses_own_of_uuid {property : Property} (registered : property ∈ Catalogue.standard.properties)
    (connection : property.setting = "connection") (uuid : property.name = "uuid") :
    ¬(property.isReadOnly = false ∨ ∀ scalar, property.contract ≠ .scalar scalar) := by
  obtain ⟨isScalar, readOnly⟩ := Catalogue.uuid_of_name registered connection uuid
  rw [readOnly]
  rintro (writable | notScalar)
  · cases writable
  · exact notScalar _ isScalar

theorem IsWep.setting_ne_connection {property : Property} (wep : property.IsWep) :
    property.setting ≠ "connection" := by
  rw [wep.1]
  decide

/-- The fields that the keys have in common belong to the WEP keys themselves. -/
theorem IsWep.of_shared {property other : Property} (wep : property.IsWep)
    (same : other.setting = property.setting) (name : other.name ∈ ["wep-key-type", "wep-tx-keyidx"]) :
    other.IsWep := by
  refine ⟨same.trans wep.1, ?_⟩
  simp only [List.mem_cons, List.not_mem_nil, or_false] at name
  rcases name with type | index
  · simp [type]
  · simp [index]

/-- Different properties use different fields, unless both belong to the WEP keys. -/
theorem not_uses_both {first second : Property} (firstKnown : first ∈ Catalogue.standard.properties)
    (secondKnown : second ∈ Catalogue.standard.properties) (different : first ≠ second)
    (apart : ¬(first.IsWep ∧ second.IsWep)) {setting key : String} (uses : first.Uses setting key) :
    ¬second.Uses setting key := by
  intro both
  obtain ⟨place, firstCase⟩ := cases_of_uses firstKnown uses
  obtain ⟨otherPlace, secondCase⟩ := cases_of_uses secondKnown both
  have same : first.setting = second.setting := place.symm.trans otherPlace
  rcases firstCase with ⟨own, free⟩ | ⟨connection, type, uuid⟩ | ⟨wep, key⟩
  · rcases secondCase with ⟨otherOwn, -⟩ | ⟨connection, -, uuid⟩ | ⟨wep, key⟩
    · exact different (Catalogue.property_unique firstKnown secondKnown same (own.symm.trans otherOwn))
    · exact not_uses_own_of_uuid firstKnown (same.trans connection) (own.symm.trans uuid) free
    · exact apart ⟨wep.of_shared same (own ▸ key), wep⟩
  · rcases secondCase with ⟨otherOwn, free⟩ | ⟨-, otherType, -⟩ | ⟨wep, -⟩
    · exact not_uses_own_of_uuid secondKnown (same.symm.trans connection) (otherOwn.symm.trans uuid) free
    · exact different (Catalogue.property_unique firstKnown secondKnown same (type.trans otherType.symm))
    · exact wep.setting_ne_connection (same.symm.trans connection)
  · rcases secondCase with ⟨otherOwn, -⟩ | ⟨connection, -, -⟩ | ⟨otherWep, -⟩
    · exact apart ⟨wep, wep.of_shared same.symm (otherOwn ▸ key)⟩
    · exact wep.setting_ne_connection (same.trans connection)
    · exact apart ⟨wep, otherWep⟩

end Property

namespace Operation

/-- An operation fails for the same reason wherever the fields that it uses are the same. -/
theorem result_congr {operation : Operation} {left right : Profile}
    (agree : ∀ setting key, operation.property.Uses setting key →
      left.get? setting key = right.get? setting key) :
    operation.moves left = operation.moves right ∧
      (operation.perform left).error = (operation.perform right).error := by
  have moves := moves_congr fun key here => agree _ key ⟨rfl, Property.mem_used_of_looked here⟩
  refine ⟨moves, ?_⟩
  rw [error_perform, error_perform, ← moves]
  cases moved : operation.moves left with
  | error error => rfl
  | ok changes =>
    simp only
    rw [Profile.error_changeAll_congr fun change here setting key touched =>
      agree setting key (uses_of_moves moved here touched)]

/-- Operations on different properties may change places: the profile in the end and the result of
each are the same. Only the WEP keys with their type and their index depend on each other. -/
theorem perform_comm (first second : Operation) (different : first.property ≠ second.property)
    (apart : ¬(first.property.IsWep ∧ second.property.IsWep)) (profile : Profile) :
    (second.perform (first.perform profile).profile).profile =
        (first.perform (second.perform profile).profile).profile ∧
      (first.perform (second.perform profile).profile).error = (first.perform profile).error ∧
      (second.perform (first.perform profile).profile).error = (second.perform profile).error := by
  have disjoint : ∀ setting key, first.property.Uses setting key → ¬second.property.Uses setting key :=
    fun _ _ => Property.not_uses_both first.registered second.registered different apart
  obtain ⟨firstMoves, firstError⟩ := result_congr fun setting key uses =>
    get?_perform (disjoint setting key uses) profile
  obtain ⟨secondMoves, secondError⟩ := result_congr fun setting key uses =>
    get?_perform (fun both => disjoint setting key both uses) profile
  refine ⟨?_, firstError, secondError⟩
  rw [profile_perform second, profile_perform first (second.perform profile).profile, firstMoves,
    secondMoves, profile_perform first, profile_perform second]
  cases firstMoved : first.moves profile with
  | error error => rfl
  | ok changes =>
    cases secondMoved : second.moves profile with
    | error error => rfl
    | ok others =>
      refine Profile.changeAll_comm (fun change here other member setting key touched both => ?_) profile
      exact disjoint setting key (uses_of_moves firstMoved here touched)
        (uses_of_moves secondMoved member both)

def setThirdKey (text : String) : Operation :=
  .assign Settings.wifiSecurity.properties[10] (by decide +kernel) text

/-- A type and a WEP key write three settings between them, in either order. -/
theorem perform_comm_type_key :
    let type := setType ⟨7⟩ "wifi"
    let key := setThirdKey "12345"
    let after := (key.perform (type.perform .empty).profile).profile
    after = (type.perform (key.perform .empty).profile).profile ∧
      (type.perform (key.perform .empty).profile).error = none ∧
      after.get? "connection" "type" = some (.ofText "802-11-wireless") ∧
      after.get? wirelessSecurity "wep-tx-keyidx" = some (.int 2) :=
  have different : (setType ⟨7⟩ "wifi").property ≠ (setThirdKey "12345").property := fun same =>
    absurd (congrArg Property.name same) (by decide +kernel)
  have apart : ¬((setType ⟨7⟩ "wifi").property.IsWep ∧ (setThirdKey "12345").property.IsWep) := fun both =>
    absurd both.1.1 (by decide +kernel)
  have comm := perform_comm (setType ⟨7⟩ "wifi") (setThirdKey "12345") different apart .empty
  ⟨comm.1, comm.2.1.trans (by decide +kernel), by decide +kernel, by decide +kernel⟩

end Operation

end NetProfile
