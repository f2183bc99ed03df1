import NetProfile.Proofs.Dict
import NetProfile.Proofs.Profile.Change

/-!
Changes of different fields. Lists of changes without a common field lead to the same profile in
either order, and what one of them refuses does not hang on whether the other has been made.
-/

namespace NetProfile

def Change.Apart (first second : Change) : Prop :=
  ∀ setting key, first.Touches setting key → ¬second.Touches setting key

namespace Profile

theorem ext_fields {left right : Profile}
    (settings : ∀ setting, left.hasSetting setting = right.hasSetting setting)
    (fields : ∀ setting key, left.get? setting key = right.get? setting key) : left = right := by
  have same : left.settings = right.settings := by
    apply Dict.ext_get?
    intro setting
    have present := settings setting
    have contents := fields setting
    simp only [hasSetting, Dict.contains] at present
    simp only [get?, Profile.fields] at contents
    cases first : left.settings.get? setting <;> cases second : right.settings.get? setting
    case none.none => rfl
    case some.some leftFields rightFields =>
      rw [first, second] at contents
      exact congrArg some (Dict.ext_get? contents)
    all_goals
      rw [first, second] at present
      cases present
  cases left
  cases right
  cases same
  rfl

theorem settingNames_eq_iff {left right : Profile} :
    left.settingNames = right.settingNames ↔
      ∀ setting, left.hasSetting setting = right.hasSetting setting :=
  Dict.keys_eq_iff

/-- Of two values that are put into a field the first one leaves no trace. -/
theorem put_put (profile : Profile) (setting key : String) (value later : Value) :
    (profile.put setting key value).put setting key later = profile.put setting key later := by
  apply ext_fields
  · intro other
    simp only [hasSetting_put, Bool.or_assoc, Bool.or_self]
  · intro other name
    simp only [get?_put]
    split <;> rfl

theorem get?_change_congr {left right : Profile} {setting key : String}
    (same : left.get? setting key = right.get? setting key) (change : Change) :
    (left.change change).1.get? setting key = (right.change change).1.get? setting key := by
  by_cases touched : change.Touches setting key
  · cases change with
    | put other name value =>
      obtain ⟨rfl, rfl⟩ := touched
      simp only [Profile.change, write, same]
      split
      · split
        · rw [get?_put, get?_put, if_pos ⟨rfl, rfl⟩, if_pos ⟨rfl, rfl⟩]
        · exact same
      · rw [get?_put, get?_put, if_pos ⟨rfl, rfl⟩, if_pos ⟨rfl, rfl⟩]
    | reset other name =>
      simp only [Profile.change, get?_reset, same]
    | ensure other => exact touched.elim
  · rw [get?_change touched, get?_change touched, same]

theorem error_change_congr {left right : Profile} {change : Change}
    (same : ∀ setting key, change.Touches setting key → left.get? setting key = right.get? setting key) :
    (left.change change).2 = (right.change change).2 := by
  cases change with
  | put setting key value =>
    simp only [Profile.change, write, same setting key ⟨rfl, rfl⟩]
    split
    · split <;> rfl
    · rfl
  | reset | ensure => rfl

theorem change_comm {first second : Change} (apart : first.Apart second) (profile : Profile) :
    ((profile.change first).1.change second).1 = ((profile.change second).1.change first).1 := by
  apply ext_fields
  · intro setting
    simp only [hasSetting_change_eq]
    exact Bool.or_right_comm ..
  · intro setting key
    by_cases touched : first.Touches setting key
    · have spared := apart setting key touched
      rw [get?_change spared]
      exact get?_change_congr (get?_change spared profile).symm first
    · rw [get?_change touched (profile.change second).1]
      exact get?_change_congr (get?_change touched profile) second

theorem change_apart {first second : Change} (apart : first.Apart second) (profile : Profile) :
    (profile.change first).1.change second =
      (((profile.change second).1.change first).1, (profile.change second).2) :=
  Prod.ext (change_comm apart profile) <| error_change_congr fun setting key touched =>
    get?_change (fun both => apart setting key both touched) profile

theorem changeAll_change {first : Change} {changes : List Change}
    (apart : ∀ change ∈ changes, first.Apart change) (profile : Profile) :
    (profile.change first).1.changeAll changes =
      (((profile.changeAll changes).1.change first).1, (profile.changeAll changes).2) := by
  induction changes generalizing profile with
  | nil => rfl
  | cons second rest ih =>
    have step := change_apart (apart second List.mem_cons_self) profile
    have later := ih fun change here => apart change (List.mem_cons_of_mem _ here)
    simp only [changeAll, step]
    rcases profile.change second with ⟨next, refused⟩
    cases refused with
    | none => exact later next
    | some error => rfl

/-- Lists of changes without a common field may be made in either order. -/
theorem changeAll_comm {first second : List Change}
    (apart : ∀ change ∈ first, ∀ other ∈ second, change.Apart other) (profile : Profile) :
    ((profile.changeAll first).1.changeAll second).1 = ((profile.changeAll second).1.changeAll first).1 := by
  induction first generalizing profile with
  | nil => rfl
  | cons change rest ih =>
    have here := apart change List.mem_cons_self
    have later := ih fun other member => apart other (List.mem_cons_of_mem _ member)
    -- after the second list, the change makes the same step and is refused for the same reason
    have step : (profile.changeAll second).1.change change
        = (((profile.change change).1.changeAll second).1, (profile.change change).2) := by
      refine Prod.ext ?_ (error_change_congr fun setting key touched => ?_)
      · rw [changeAll_change here]
      · exact get?_changeAll (fun other member => here other member setting key touched) profile
    simp only [changeAll, step]
    rcases profile.change change with ⟨next, refused⟩
    cases refused with
    | none => exact later next
    | some error => rfl

theorem error_changeAll_congr {left right : Profile} {changes : List Change}
    (same : ∀ change ∈ changes, ∀ setting key, change.Touches setting key →
      left.get? setting key = right.get? setting key) :
    (left.changeAll changes).2 = (right.changeAll changes).2 := by
  induction changes generalizing left right with
  | nil => rfl
  | cons change rest ih =>
    have error : (left.change change).2 = (right.change change).2 :=
      error_change_congr (same change List.mem_cons_self)
    have later := ih fun other member setting key touched =>
      get?_change_congr (same other (List.mem_cons_of_mem _ member) setting key touched) change
    simp only [changeAll]
    revert error later
    rcases left.change change with ⟨leftNext, leftRefused⟩
    rcases right.change change with ⟨rightNext, rightRefused⟩
    rintro rfl later
    cases leftRefused with
    | none => exact later
    | some error => rfl

/-- Where nothing is refused, what becomes of a field depends on this field alone. -/
theorem get?_changeAll_congr {left right leftAfter rightAfter : Profile} {changes : List Change}
    (leftMade : left.changeAll changes = (leftAfter, none))
    (rightMade : right.changeAll changes = (rightAfter, none)) {setting key : String}
    (same : left.get? setting key = right.get? setting key) :
    leftAfter.get? setting key = rightAfter.get? setting key := by
  induction changes generalizing left right with
  | nil =>
    cases leftMade
    cases rightMade
    exact same
  | cons change rest ih =>
    obtain ⟨leftNext, leftStep, leftMade⟩ := changeAll_cons leftMade
    obtain ⟨rightNext, rightStep, rightMade⟩ := changeAll_cons rightMade
    have step := get?_change_congr same change
    rw [leftStep, rightStep] at step
    exact ih leftMade rightMade step

/-- Where no two changes are made to one field, a value that is put into a field stays there. -/
theorem get?_changeAll_of_put {profile after : Profile} {changes : List Change} {setting key : String} {value : Value}
    (apart : changes.Pairwise Change.Apart) (here : .put setting key value ∈ changes)
    (made : profile.changeAll changes = (after, none)) : after.get? setting key = some value := by
  induction changes generalizing profile with
  | nil => cases here
  | cons first rest ih =>
    obtain ⟨next, step, later⟩ := changeAll_cons made
    obtain ⟨others, restApart⟩ := List.pairwise_cons.1 apart
    rcases List.mem_cons.1 here with rfl | here
    · have untouched : ∀ change ∈ rest, ¬change.Touches setting key := fun change member =>
        others change member setting key ⟨rfl, rfl⟩
      have kept := get?_changeAll untouched next
      rw [later, put_of_write step, get?_put, if_pos ⟨rfl, rfl⟩] at kept
      exact kept
    · exact ih restApart here later

end Profile

end NetProfile
