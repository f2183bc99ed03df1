import NetProfile.Proofs.Edit.Legal
import NetProfile.Proofs.Profile.Change

/-!
The identity of a profile: its type and its identifier. A profile is blank until its type is set;
from then on both are settled, and no operation changes them or takes away a setting that the type
needs.
-/

namespace NetProfile

structure Profile.Blank (profile : Profile) : Prop where
  type : profile.get? "connection" "type" = none
  uuid : profile.get? "connection" "uuid" = none

structure Profile.Settled (profile : Profile) (setting : Setting) (uuid : Uuid) : Prop where
  known : setting ∈ Catalogue.standard.types
  type : profile.get? "connection" "type" = some (.ofText setting.name)
  uuid : profile.get? "connection" "uuid" = some (.ofText uuid.toText)
  parts : ∀ part ∈ setting.parts, part.isMandatory = true → profile.hasSetting part.setting = true

theorem Setting.mem_mandatoryParts {setting : Setting} {part : Part} (listed : part ∈ setting.parts)
    (mandatory : part.isMandatory = true) : part.setting ∈ setting.mandatoryParts :=
  List.mem_map_of_mem (List.mem_filter.2 ⟨listed, mandatory⟩)

def Change.TouchesIdentity (change : Change) : Prop :=
  change.Touches "connection" "type" ∨ change.Touches "connection" "uuid"

namespace Profile

variable {profile : Profile} {setting : Setting} {uuid : Uuid}

theorem identity_changeAll {changes : List Change}
    (spared : ∀ change ∈ changes, ¬change.TouchesIdentity) (profile : Profile) :
    (profile.changeAll changes).1.get? "connection" "type" = profile.get? "connection" "type" ∧
      (profile.changeAll changes).1.get? "connection" "uuid" = profile.get? "connection" "uuid" := by
  constructor
  · exact get?_changeAll (fun change here touched => spared change here (.inl touched)) profile
  · exact get?_changeAll (fun change here touched => spared change here (.inr touched)) profile

theorem Blank.changeAll (blank : profile.Blank) {changes : List Change}
    (spared : ∀ change ∈ changes, ¬change.TouchesIdentity) :
    (profile.changeAll changes).1.Blank := by
  obtain ⟨type, uuid⟩ := identity_changeAll spared profile
  exact ⟨type.trans blank.type, uuid.trans blank.uuid⟩

theorem Settled.changeAll (settled : profile.Settled setting uuid) {changes : List Change}
    (spared : ∀ change ∈ changes, ¬change.TouchesIdentity) :
    (profile.changeAll changes).1.Settled setting uuid := by
  obtain ⟨type, identifier⟩ := identity_changeAll spared profile
  refine ⟨settled.known, type.trans settled.type, identifier.trans settled.uuid, ?_⟩
  intro part listed mandatory
  exact hasSetting_changeAll (settled.parts part listed mandatory) changes

theorem Settled.not_free (settled : profile.Settled setting uuid) :
    profile.text? "connection" "uuid" ≠ none := by
  rw [text?, settled.uuid]
  intro free
  cases free

theorem settled_of_typeChanges {property : Property} (place : property.setting = "connection")
    (name : property.name = "type") (known : setting ∈ Catalogue.standard.types) {after : Profile}
    (made : profile.changeAll (property.typeChanges setting uuid) = (after, none)) :
    after.Settled setting uuid := by
  rw [Property.typeChanges, place, name] at made
  obtain ⟨typed, first, made⟩ := changeAll_cons made
  obtain ⟨named, second, made⟩ := changeAll_cons made
  have typePut := put_of_write first
  have uuidPut := put_of_write second
  -- the parts are only made sure of, so the fields are final once both are put
  have kept : ∀ key, after.get? "connection" key = named.get? "connection" key := by
    intro key
    have untouched : ∀ change ∈ setting.mandatoryParts.map Change.ensure,
        ¬change.Touches "connection" key := by
      intro change here touched
      obtain ⟨part, -, rfl⟩ := List.mem_map.1 here
      exact touched
    have same := get?_changeAll untouched named
    rw [made] at same
    exact same
  refine ⟨known, ?_, ?_, ?_⟩
  · rw [kept, uuidPut, get?_put, if_neg (by decide), typePut, get?_put, if_pos (by decide)]
  · rw [kept, uuidPut, get?_put, if_pos (by decide)]
  · intro part listed mandatory
    have ensured := hasSetting_of_ensured (Setting.mem_mandatoryParts listed mandatory) named
    rw [made] at ensured
    exact ensured

end Profile

/-- The fields of a property that is neither the type nor the identifier are not those two. -/
theorem not_identity_field {property : Property} (registered : property ∈ Catalogue.standard.properties)
    (notType : property.contract ≠ .special .connectionType)
    (writable : ∀ scalar, property.contract = .scalar scalar → property.isReadOnly = false) :
    ¬("connection" = property.setting ∧ "type" = property.name ∨
      "connection" = property.setting ∧ "uuid" = property.name) := by
  rintro (⟨place, name⟩ | ⟨place, name⟩)
  · exact notType ((Catalogue.regular_of_mem registered).type.2 ⟨place.symm, name.symm⟩)
  -- the identifier is a scalar and read-only, so no operation of its own gets to it
  · obtain ⟨contract, readOnly⟩ := Catalogue.uuid_of_name registered place.symm name.symm
    rw [writable _ contract] at readOnly
    cases readOnly

theorem not_touchesIdentity_of_mem_wepKeyChanges {property : Property}
    (elsewhere : "connection" ≠ property.setting) {slot : Fin 4} {key : String} {type : WepKeyType}
    {moved : Prop} [Decidable moved] :
    ∀ change ∈ property.wepKeyChanges slot key type moved, ¬change.TouchesIdentity := by
  intro change here
  rcases Property.mem_wepKeyChanges here with rfl | rfl | rfl
  all_goals
    rintro (touched | touched)
    · exact elsewhere touched.1
    · exact elsewhere touched.1

/-- The identity is touched by the changes that come with a type and by a reset of the type, and by
both only while there is no identifier. -/
theorem Effect.identity {property : Property} (registered : property ∈ Catalogue.standard.properties)
    {profile : Profile} {changes : List Change} (effect : Effect property profile changes) :
    (∀ change ∈ changes, ¬change.TouchesIdentity) ∨
      profile.text? "connection" "uuid" = none ∧
        (changes = [.reset "connection" "type"] ∨
          property.setting = "connection" ∧ property.name = "type" ∧
            ∃ setting ∈ Catalogue.standard.types, ∃ uuid,
              changes = property.typeChanges setting uuid) := by
  have isType := (Catalogue.regular_of_mem registered).type
  cases effect with
  | nothing => simp
  | reset writable free =>
    by_cases here : property.contract = .special .connectionType
    · obtain ⟨place, name⟩ := isType.1 here
      rw [place] at free
      rw [place, name]
      exact .inr ⟨free here, .inl rfl⟩
    · left
      simp only [List.mem_singleton, forall_eq]
      exact not_identity_field registered here fun _ _ => writable
  | put value notType writable =>
    left
    simp only [List.mem_singleton, forall_eq]
    exact not_identity_field registered notType writable
  | type setting uuid here free known =>
    obtain ⟨place, name⟩ := isType.1 here
    rw [place] at free
    exact .inr ⟨free, .inr ⟨place, name, setting, known, uuid, rfl⟩⟩
  | wepKey slot key type moved isKey =>
    left
    apply not_touchesIdentity_of_mem_wepKeyChanges
    rw [(Catalogue.regular_of_mem registered).wepKey slot isKey]
    decide

namespace Profile

variable {profile : Profile} {setting : Setting} {uuid : Uuid}

theorem Settled.perform (settled : profile.Settled setting uuid) (legal : profile.Legal)
    (operation : Operation) : (operation.perform profile).profile.Settled setting uuid := by
  obtain ⟨changes, effect, made⟩ := Operation.effect_of_perform legal operation
  rcases effect.identity operation.registered with spared | ⟨free, -⟩
  · have after := settled.changeAll spared
    rw [made] at after
    exact after
  · exact absurd free settled.not_free

/-- One operation gives a blank profile both the type and the identifier, or neither. -/
theorem Blank.perform (blank : profile.Blank) (legal : profile.Legal) (operation : Operation) :
    (operation.perform profile).profile.Blank ∨
      ∃ setting uuid, (operation.perform profile).profile.Settled setting uuid := by
  obtain ⟨changes, effect, made⟩ := Operation.effect_of_perform legal operation
  rcases effect.identity operation.registered with
    spared | ⟨-, rfl | ⟨place, name, setting, known, uuid, rfl⟩⟩
  · have after := blank.changeAll spared
    rw [made] at after
    exact .inl after
  · left
    have after : (profile.reset "connection" "type", none)
        = ((operation.perform profile).profile, (none : Option Error)) := made
    rw [← (Prod.mk.inj after).1]
    constructor
    · rw [get?_reset, if_pos (by decide)]
    · rw [get?_reset, if_neg (by decide)]
      exact blank.uuid
  · exact .inr ⟨setting, uuid, settled_of_typeChanges place name known made⟩

end Profile

variable {profile : Profile} {setting : Setting} {uuid : Uuid}

theorem Reachable.blank_or_settled (reached : Reachable profile) :
    profile.Blank ∨ ∃ setting uuid, profile.Settled setting uuid := by
  induction reached with
  | empty => exact .inl ⟨rfl, rfl⟩
  | step reached operation ih =>
    rcases ih with blank | ⟨setting, uuid, settled⟩
    · exact blank.perform reached.legal operation
    · exact .inr ⟨setting, uuid, settled.perform reached.legal operation⟩

theorem Profile.Settled.after (settled : profile.Settled setting uuid) (reached : Reachable profile)
    (operations : List Operation) : (profile.after operations).Settled setting uuid := by
  induction operations generalizing profile with
  | nil => exact settled
  | cons operation rest ih =>
    exact ih (settled.perform reached.legal operation) (reached.step operation)

theorem Profile.Settled.text?_eq_some (settled : profile.Settled setting uuid) :
    profile.text? "connection" "type" = some setting.name ∧
      profile.text? "connection" "uuid" = some uuid.toText := by
  unfold Profile.text?
  rw [settled.type, settled.uuid]
  exact ⟨rfl, rfl⟩

theorem Profile.Blank.text?_eq_none (blank : profile.Blank) :
    profile.text? "connection" "type" = none ∧ profile.text? "connection" "uuid" = none := by
  unfold Profile.text?
  rw [blank.type, blank.uuid]
  exact ⟨rfl, rfl⟩

def Operation.setsType (operation : Operation) (profile : Profile) : Bool :=
  operation.property.setting = "connection" && operation.property.name = "type"
    && operation.action.givesText && (operation.perform profile).error.isNone

theorem Operation.settled_of_setsType {operation : Operation} (legal : profile.Legal)
    (sets : operation.setsType profile = true) :
    profile.text? "connection" "uuid" = none ∧
      ∃ setting uuid, (operation.perform profile).profile.Settled setting uuid := by
  simp only [setsType, Bool.and_eq_true, decide_eq_true_eq] at sets
  obtain ⟨⟨⟨place, name⟩, text⟩, passed⟩ := sets
  have isType := (Catalogue.regular_of_mem operation.registered).type.2 ⟨place, name⟩
  cases planned : operation.plan profile with
  | error error =>
    rw [perform_of_error planned] at passed
    cases passed
  | ok plan =>
    obtain ⟨free, setting, known, uuid, changes⟩ := changes_of_typeText isType text planned
    obtain ⟨after, made, performed⟩ := perform_of_plan legal planned
    rw [changes] at made
    rw [place] at free
    rw [performed]
    exact ⟨free, setting, uuid, Profile.settled_of_typeChanges place name known made⟩

def Profile.typesSet (profile : Profile) : List Operation → Nat
  | [] => 0
  | operation :: rest =>
    (if operation.setsType profile then 1 else 0) + (operation.perform profile).profile.typesSet rest

theorem Profile.Settled.typesSet_eq_zero (settled : profile.Settled setting uuid)
    (reached : Reachable profile) (operations : List Operation) : profile.typesSet operations = 0 := by
  induction operations generalizing profile with
  | nil => rfl
  | cons operation rest ih =>
    have refused : ¬operation.setsType profile = true := by
      intro sets
      exact settled.not_free (Operation.settled_of_setsType reached.legal sets).1
    rw [typesSet, if_neg refused, Nat.zero_add]
    exact ih (settled.perform reached.legal operation) (reached.step operation)

theorem Reachable.typesSet_le_one (reached : Reachable profile) (operations : List Operation) :
    profile.typesSet operations ≤ 1 := by
  induction operations generalizing profile with
  | nil => exact Nat.zero_le 1
  | cons operation rest ih =>
    rw [Profile.typesSet]
    by_cases sets : operation.setsType profile = true
    · obtain ⟨-, setting, uuid, settled⟩ := Operation.settled_of_setsType reached.legal sets
      have later := settled.typesSet_eq_zero (reached.step operation) rest
      rw [if_pos sets]
      omega
    · rw [if_neg sets, Nat.zero_add]
      exact ih (reached.step operation)

/-- A reachable profile has both a type and an identifier or neither, and the operations after it
keep them. -/
theorem Reachable.identity_kept (reached : Reachable profile) (operations : List Operation) :
    ((profile.text? "connection" "type").isSome ↔ (profile.text? "connection" "uuid").isSome) ∧
    ((profile.text? "connection" "type").isSome →
      (profile.after operations).get? "connection" "type" = profile.get? "connection" "type" ∧
        (profile.after operations).get? "connection" "uuid" = profile.get? "connection" "uuid") ∧
    (∀ name, profile.text? "connection" "type" = some name →
      ∃ setting ∈ Catalogue.standard.types, setting.name = name ∧
        ∀ part ∈ setting.parts, part.isMandatory = true →
          (profile.after operations).hasSetting part.setting = true) := by
  rcases reached.blank_or_settled with blank | ⟨setting, uuid, settled⟩
  · obtain ⟨noType, noUuid⟩ := blank.text?_eq_none
    rw [noType, noUuid]
    simp
  · have kept := settled.after reached operations
    obtain ⟨type, identifier⟩ := settled.text?_eq_some
    refine ⟨?_, fun _ => ⟨?_, ?_⟩, ?_⟩
    · simp only [type, identifier, Option.isSome_some]
    · rw [kept.type, settled.type]
    · rw [kept.uuid, settled.uuid]
    · intro name there
      rw [type] at there
      cases there
      exact ⟨setting, settled.known, rfl, kept.parts⟩

/-- The identity of a profile is given once. In every state of a run there is a type if and only if
there is an identifier, the rest of the run keeps both, and all the settings that the type needs stay
there. -/
theorem identity_of_run (earlier later : List Operation) :
    let before := Profile.empty.after earlier
    let after := Profile.empty.after (earlier ++ later)
    ((before.text? "connection" "type").isSome ↔ (before.text? "connection" "uuid").isSome) ∧
    ((before.text? "connection" "type").isSome →
      after.get? "connection" "type" = before.get? "connection" "type" ∧
        after.get? "connection" "uuid" = before.get? "connection" "uuid") ∧
    Profile.empty.typesSet (earlier ++ later) ≤ 1 ∧
    (∀ name, before.text? "connection" "type" = some name →
      ∃ setting ∈ Catalogue.standard.types, setting.name = name ∧
        ∀ part ∈ setting.parts, part.isMandatory = true → after.hasSetting part.setting = true) := by
  intro before after
  have joined : after = before.after later := Profile.after_append .empty earlier later
  have reached : Reachable before := Reachable.empty.after earlier
  obtain ⟨both, kept, known⟩ := reached.identity_kept later
  rw [joined]
  exact ⟨both, kept, Reachable.empty.typesSet_le_one (earlier ++ later), known⟩

/-- The second of two types is refused, and what the first one needs stays. -/
theorem identity_of_run_second_type :
    let before := Profile.empty.after [.setType ⟨7⟩ "wifi"]
    let after := Profile.empty.after [.setType ⟨7⟩ "wifi", .setType ⟨8⟩ "ethernet"]
    before.text? "connection" "type" = some "802-11-wireless" ∧
      after.get? "connection" "type" = before.get? "connection" "type" ∧
      after.get? "connection" "uuid" = before.get? "connection" "uuid" ∧
      after.hasSetting "802-11-wireless" = true := by
  intro before after
  have there : before.text? "connection" "type" = some "802-11-wireless" := by decide +kernel
  have table : ∀ setting ∈ Catalogue.standard.types, setting.name = "802-11-wireless" →
      .mandatory "802-11-wireless" ∈ setting.parts := by decide +kernel
  obtain ⟨-, kept, -, parts⟩ := identity_of_run [.setType ⟨7⟩ "wifi"] [.setType ⟨8⟩ "ethernet"]
  obtain ⟨type, uuid⟩ := kept (Option.isSome_iff_exists.2 ⟨_, there⟩)
  obtain ⟨setting, known, name, present⟩ := parts "802-11-wireless" there
  exact ⟨there, type, uuid, present (.mandatory "802-11-wireless") (table setting known name) rfl⟩

end NetProfile
