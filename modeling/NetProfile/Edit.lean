import NetProfile.Edit.Plan

/-!
Edits of a profile through its properties. What an edit says and how it ends is in its outcome; an
error always names the property unless it concerns a field of another one.
-/

namespace NetProfile

inductive Assignment where
  | unchanged
  | reset
  | text (value : String)
deriving DecidableEq, Repr

structure Outcome where
  profile : Profile
  advisories : List Advisory := []
  error : Option Error := none
deriving DecidableEq, Repr

def Plan.run (plan : Plan) (profile : Profile) : Outcome :=
  match profile.changeAll plan.changes with
  | (after, none) => { profile := after, advisories := plan.advisories ++ plan.reminders }
  | (after, some error) =>
    { profile := after, advisories := plan.advisories, error := some error }

namespace Property

/-- Runs a plan, if there is one, and attaches errors to the property. -/
def carryOut (property : Property) (profile : Profile) (plan : Except Error Plan) : Outcome :=
  match plan with
  | .error error => { profile, error := some (error.withProperty property.name) }
  | .ok plan =>
    let outcome := plan.run profile
    { outcome with error := outcome.error.map (·.withProperty property.name) }

def set (context : Context) (property : Property) (profile : Profile) (assignment : Assignment) :
    Outcome :=
  match assignment with
  | .unchanged => { profile }
  | .reset =>
    if property.isReadOnly then property.carryOut profile refuseReadOnly
    else property.carryOut profile (Plan.resetting property profile)
  | .text text =>
    if property.isReadOnly then property.carryOut profile refuseReadOnly
    else property.carryOut profile (Plan.setting context property profile text)
where
  refuseReadOnly : Except Error Plan :=
    .error { cause := .immutable (.readOnly property.name) }

/-- Takes an item or an option away, also from a property that is read-only. -/
def remove (property : Property) (profile : Profile) (text : String) : Outcome :=
  property.carryOut profile (Plan.removing property profile text)

end Property

end NetProfile
