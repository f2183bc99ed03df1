import NetProfile.Edit
import NetProfile.Settings.Standard

/-!
Runs of edits. An operation sets a registered property or takes something away from it, and a run
makes operations one after another, whether they fail or not. All that an operation does is to carry
out its plan.
-/

namespace NetProfile

/-- What is done to a property. Nothing is assumed of the surroundings but their catalogue. -/
inductive Action where
  | set (context : Context) (standard : context.catalogue = .standard) (assignment : Assignment)
  | remove (text : String)

def Action.givesText : Action → Bool
  | .set _ _ (.text _) => true
  | _ => false

def Action.resets : Action → Bool
  | .set _ _ .reset => true
  | _ => false

structure Operation where
  property : Property
  registered : property ∈ Catalogue.standard.properties
  action : Action

namespace Operation

def perform (operation : Operation) (profile : Profile) : Outcome :=
  match operation.action with
  | .set context _ assignment => operation.property.set context profile assignment
  | .remove text => operation.property.remove profile text

def plan (operation : Operation) (profile : Profile) : Except Error Plan :=
  match operation.action with
  | .set _ _ .unchanged => .ok {}
  | .set _ _ .reset =>
    if operation.property.isReadOnly then Property.set.refuseReadOnly operation.property
    else Plan.resetting operation.property profile
  | .set context _ (.text text) =>
    if operation.property.isReadOnly then Property.set.refuseReadOnly operation.property
    else Plan.setting context operation.property profile text
  | .remove text => Plan.removing operation.property profile text

theorem perform_eq_carryOut (operation : Operation) (profile : Profile) :
    operation.perform profile = operation.property.carryOut profile (operation.plan profile) := by
  obtain ⟨property, registered, action⟩ := operation
  cases action with
  | remove text => rfl
  | set context standard assignment =>
    cases assignment with
    | unchanged => rfl
    | reset =>
      simp only [perform, plan, Property.set]
      split <;> rfl
    | text text =>
      simp only [perform, plan, Property.set]
      split <;> rfl

/-- Without a text, and where there is nothing to take away, an operation at most empties the field. -/
theorem profile_without_text {operation : Operation} {profile : Profile}
    (noText : operation.action.givesText = false)
    (single : ∀ text, Plan.removing operation.property profile text = .ok {}) :
    (operation.perform profile).profile = profile ∨ operation.action.resets = true ∧
      (operation.perform profile).profile
        = profile.reset operation.property.setting operation.property.name := by
  obtain ⟨property, registered, action⟩ := operation
  cases action with
  | remove text =>
    left
    simp only [perform, Property.remove, single text]
    rfl
  | set context standard assignment =>
    cases assignment with
    | unchanged => exact .inl rfl
    | text => cases noText
    | reset =>
      simp only [perform, Property.set]
      split
      · exact .inl rfl
      · cases emptied : Plan.resetting property profile with
        | error error => exact .inl rfl
        | ok plan =>
          right
          refine ⟨rfl, ?_⟩
          unfold Plan.resetting at emptied
          split at emptied
          · cases free : Plan.checkTypeFree property profile <;> rw [free] at emptied <;> cases emptied
            rfl
          · cases emptied
            rfl

def typeProperty : Property := Settings.connection.properties[3]

def setType (uuid : Uuid) (text : String) : Operation where
  property := typeProperty
  registered := by decide +kernel
  action := .set { catalogue := .standard, freshUuid := uuid } rfl (.text text)

/-- Gives a property a text, in surroundings without devices and other profiles. -/
def assign (property : Property) (registered : property ∈ Catalogue.standard.properties) (text : String) :
    Operation where
  property := property
  registered := registered
  action := .set { catalogue := .standard, freshUuid := ⟨0⟩ } rfl (.text text)

def clear (property : Property) (registered : property ∈ Catalogue.standard.properties) : Operation where
  property := property
  registered := registered
  action := .set { catalogue := .standard, freshUuid := ⟨0⟩ } rfl .reset

end Operation

def Profile.after (profile : Profile) (operations : List Operation) : Profile :=
  operations.foldl (fun profile operation => (operation.perform profile).profile) profile

theorem Profile.after_append (profile : Profile) (earlier later : List Operation) :
    profile.after (earlier ++ later) = (profile.after earlier).after later :=
  List.foldl_append

theorem Profile.after_invariant (holds : Profile → Prop) {operations : List Operation}
    (kept : ∀ before, ∀ operation ∈ operations, holds before → holds (operation.perform before).profile)
    {profile : Profile} (initially : holds profile) : holds (profile.after operations) := by
  induction operations generalizing profile with
  | nil => exact initially
  | cons operation rest ih =>
    have step := kept profile operation List.mem_cons_self initially
    exact ih (fun before other here => kept before other (List.mem_cons_of_mem _ here)) step

inductive Reachable : Profile → Prop where
  | empty : Reachable .empty
  | step {profile : Profile} (reached : Reachable profile) (operation : Operation) :
      Reachable (operation.perform profile).profile

theorem Reachable.after {profile : Profile} (reached : Reachable profile)
    (operations : List Operation) : Reachable (profile.after operations) :=
  Profile.after_invariant Reachable (fun _ operation _ before => before.step operation) reached

end NetProfile
