import NetProfile.Profile

/-!
Changes of a profile, and lists of changes that are made one after another. A field keeps its kind:
the profile refuses a value of another kind, and the changes after it are not made.
-/

namespace NetProfile

inductive Change where
  | put (setting key : String) (value : Value)
  | reset (setting key : String)
  | ensure (setting : String)
deriving DecidableEq, Repr

namespace Profile

/-- The error of a value for a field that holds one of another kind. -/
def refusal (key : String) (held given : Value) : Error :=
  ({ cause := .refused (.otherKind held.kind.label given.kind.label) } : Error).withProperty key

/-- Puts a value into a field, unless the field holds one of another kind. -/
def write (profile : Profile) (setting key : String) (value : Value) : Profile × Option Error :=
  match profile.get? setting key with
  | some held =>
    if held.kind = value.kind then (profile.put setting key value, none)
    else (profile, some (refusal key held value))
  | none => (profile.put setting key value, none)

def change (profile : Profile) : Change → Profile × Option Error
  | .put setting key value => profile.write setting key value
  | .reset setting key => (profile.reset setting key, none)
  | .ensure setting => (profile.ensure setting, none)

def changeAll (profile : Profile) : List Change → Profile × Option Error
  | [] => (profile, none)
  | first :: rest =>
    match profile.change first with
    | (after, none) => after.changeAll rest
    | (after, some error) => (after, some error)

theorem write_of_accepts {profile : Profile} {setting key : String} {value : Value}
    (accepted : profile.accepts setting key value = true) :
    profile.write setting key value = (profile.put setting key value, none) := by
  unfold write
  unfold accepts at accepted
  split
  · next held found => simp_all
  · rfl

theorem changeAll_append (profile : Profile) (first second : List Change) :
    profile.changeAll (first ++ second) =
      match profile.changeAll first with
      | (after, none) => after.changeAll second
      | (after, some error) => (after, some error) := by
  induction first generalizing profile with
  | nil => rfl
  | cons head rest ih =>
    simp only [List.cons_append, changeAll]
    split
    · next after _ => exact ih after
    · rfl

end Profile

end NetProfile
