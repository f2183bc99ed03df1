import NetProfile.Profile.Change

/-!
What changes leave alone. A list of changes alters only the fields that it touches, and no setting
goes away; both hold however far the changes get.
-/

namespace NetProfile

def Change.Touches (setting key : String) : Change → Prop
  | .put other name _ | .reset other name => setting = other ∧ key = name
  | .ensure _ => False

def Change.creates (setting : String) : Change → Bool
  | .put other _ _ | .ensure other => setting == other
  | .reset _ _ => false

namespace Profile

variable {profile after : Profile} {setting key : String}

theorem write_cases (profile : Profile) (setting key : String) (value : Value) :
    profile.write setting key value = (profile.put setting key value, none) ∨
      ∃ error, profile.write setting key value = (profile, some error) := by
  unfold write
  split
  next held stored =>
    split
    next => exact .inl rfl
    next => exact .inr ⟨_, rfl⟩
  next => exact .inl rfl

theorem put_of_write {value : Value} (made : profile.write setting key value = (after, none)) :
    after = profile.put setting key value := by
  rcases write_cases profile setting key value with put | ⟨error, refused⟩
  · rw [put] at made
    cases made
    rfl
  · rw [refused] at made
    cases made

theorem changeAll_cons {first : Change} {rest : List Change}
    (made : profile.changeAll (first :: rest) = (after, none)) :
    ∃ next, profile.change first = (next, none) ∧ next.changeAll rest = (after, none) := by
  rw [changeAll] at made
  split at made
  next next step => exact ⟨next, step, made⟩
  next => cases made

/-- Only a put is refused: its field holds a value of another kind, and the profile stays. -/
theorem change_refused {change : Change} {error : Error}
    (refused : profile.change change = (after, some error)) :
    after = profile ∧ ∃ setting key held given, change = .put setting key given ∧
      profile.get? setting key = some held ∧ held.kind ≠ given.kind ∧ error = refusal key held given := by
  cases change with
  | put setting key given =>
    simp only [change, write] at refused
    split at refused
    next held stored =>
      split at refused
      next => cases refused
      next different =>
        cases refused
        exact ⟨rfl, setting, key, held, given, rfl, stored, different, rfl⟩
    next => cases refused
  | reset | ensure => cases refused

theorem changeAll_refused {changes : List Change} {error : Error}
    (refused : profile.changeAll changes = (after, some error)) :
    ∃ made change rest before, changes = made ++ change :: rest ∧
      profile.changeAll made = (before, none) ∧ before.change change = (after, some error) := by
  induction changes generalizing profile with
  | nil => cases refused
  | cons first rest ih =>
    rw [changeAll] at refused
    split at refused
    next next step =>
      obtain ⟨made, change, others, before, shape, makes, last⟩ := ih refused
      refine ⟨first :: made, change, others, before, by rw [shape]; rfl, ?_, last⟩
      rw [changeAll, step]
      exact makes
    next next reason step =>
      cases refused
      exact ⟨[], first, rest, profile, rfl, rfl, step⟩

/-- What every change keeps holds in the end, also when a change has been refused. -/
theorem changeAll_invariant (holds : Profile → Prop) {changes : List Change}
    (kept : ∀ before, ∀ change ∈ changes, holds before → holds (before.change change).1)
    (initially : holds profile) : holds (profile.changeAll changes).1 := by
  induction changes generalizing profile with
  | nil => exact initially
  | cons first rest ih =>
    have step := kept profile first List.mem_cons_self initially
    rw [changeAll]
    split
    next next made =>
      rw [made] at step
      exact ih (fun before change here => kept before change (List.mem_cons_of_mem _ here)) step
    next next error refused =>
      rw [refused] at step
      exact step

theorem get?_change {change : Change} (spared : ¬change.Touches setting key) (profile : Profile) :
    (profile.change change).1.get? setting key = profile.get? setting key := by
  cases change with
  | put other name value =>
    rcases write_cases profile other name value with put | ⟨error, refused⟩
    · rw [change, put]
      exact (get?_put ..).trans (if_neg spared)
    · rw [change, refused]
  | reset other name => exact (get?_reset ..).trans (if_neg spared)
  | ensure other => exact get?_ensure ..

theorem get?_changeAll {changes : List Change}
    (spared : ∀ change ∈ changes, ¬change.Touches setting key) (profile : Profile) :
    (profile.changeAll changes).1.get? setting key = profile.get? setting key := by
  apply changeAll_invariant (fun after => after.get? setting key = profile.get? setting key) ?_ rfl
  intro before change here same
  rw [get?_change (spared change here) before]
  exact same

theorem hasSetting_of_get? {profile : Profile} {setting key : String} {value : Value}
    (found : profile.get? setting key = some value) : profile.hasSetting setting = true := by
  unfold hasSetting Dict.contains
  cases held : profile.settings.get? setting with
  | none =>
    rw [get?, fields, held] at found
    cases found
  | some _ => rfl

theorem hasSetting_put (profile : Profile) (setting key other : String) (value : Value) :
    (profile.put setting key value).hasSetting other = (profile.hasSetting other || other == setting) := by
  unfold hasSetting Dict.contains put
  rw [Dict.get?_insert]
  by_cases same : other = setting <;> simp [same]

/-- A put that is refused finds its field taken, so its setting is there already. -/
theorem hasSetting_write (profile : Profile) (setting key other : String) (value : Value) :
    (profile.write setting key value).1.hasSetting other = (profile.hasSetting other || other == setting) := by
  unfold write
  split
  · next held found =>
    split
    · exact hasSetting_put ..
    · by_cases same : other = setting
      · subst same
        rw [hasSetting_of_get? found]
        rfl
      · simp [same]
  · exact hasSetting_put ..

theorem hasSetting_reset (profile : Profile) (setting key other : String) :
    (profile.reset setting key).hasSetting other = profile.hasSetting other := by
  unfold reset
  split
  · next held found =>
    unfold hasSetting Dict.contains
    rw [Dict.get?_insert]
    by_cases same : other = setting
    · subst same
      rw [if_pos rfl, found]
      rfl
    · rw [if_neg same]
  · rfl

theorem hasSetting_ensure (profile : Profile) (setting other : String) :
    (profile.ensure setting).hasSetting other = (profile.hasSetting other || other == setting) := by
  unfold ensure
  split
  · next here =>
    by_cases same : other = setting
    · subst same
      rw [here]
      rfl
    · simp [same]
  · unfold hasSetting Dict.contains
    rw [Dict.get?_insert]
    by_cases same : other = setting <;> simp [same]

theorem hasSetting_change_eq (profile : Profile) (change : Change) (setting : String) :
    (profile.change change).1.hasSetting setting = (profile.hasSetting setting || change.creates setting) := by
  cases change with
  | put => exact hasSetting_write ..
  | reset =>
    rw [Change.creates, Bool.or_false]
    exact hasSetting_reset ..
  | ensure => exact hasSetting_ensure ..

theorem hasSetting_change (here : profile.hasSetting setting = true) (change : Change) :
    (profile.change change).1.hasSetting setting = true := by
  rw [hasSetting_change_eq, here, Bool.true_or]

theorem hasSetting_changeAll (here : profile.hasSetting setting = true) (changes : List Change) :
    (profile.changeAll changes).1.hasSetting setting = true :=
  changeAll_invariant (fun after => after.hasSetting setting = true)
    (fun _ change _ before => hasSetting_change before change) here

theorem hasSetting_of_ensured {parts : List String} (here : setting ∈ parts) (profile : Profile) :
    (profile.changeAll (parts.map .ensure)).1.hasSetting setting = true := by
  induction parts generalizing profile with
  | nil => cases here
  | cons part parts ih =>
    rw [List.map_cons, changeAll]
    rcases List.mem_cons.1 here with rfl | later
    · have ensured : (profile.ensure setting).hasSetting setting = true := by simp [hasSetting_ensure]
      exact hasSetting_changeAll ensured _
    · exact ih later _

end Profile

end NetProfile
