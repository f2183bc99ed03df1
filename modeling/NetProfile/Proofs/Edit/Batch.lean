import NetProfile.Proofs.Edit.Legal
import NetProfile.Proofs.Profile.Commute
import NetProfile.Proofs.Reading.Joined

/-!
Texts given at once and one after the other. A property that gathers items reads those of a text,
looks up what it holds and merges the two. Reading and merging both respect joined texts, so it makes
no difference whether two texts are given joined by a comma or as two edits.
-/

namespace NetProfile

def Contract.gathers : Contract → Bool
  | .list kind => kind.policy ≠ .replace
  | .options _ | .special .dnsOptions => true
  | _ => false

/-- A text with nothing in it empties resolver options instead of adding to them. -/
def Contract.AddsText (contract : Contract) (text : String) : Prop :=
  contract = .special .dnsOptions → Text.items (plainSeparators.elem ·) text ≠ []

theorem Contract.AddsText.append {contract : Contract} {first : String} (adds : contract.AddsText first)
    (second : String) : contract.AddsText (first ++ "," ++ second) := by
  intro isDns
  rw [Text.items_append ',' rfl (by decide)]
  exact List.append_ne_nil_of_left_ne_nil (adds isDns) _

theorem ListContract.merge_append {list : ListContract} (keeps : list.policy ≠ .replace)
    (held first second : List Item) :
    list.merge held (first ++ second) = list.merge (list.merge held first) second := by
  cases form : list.form with
  | priority direction =>
    have added : priorities (first ++ second) = priorities first ++ priorities second :=
      List.filterMap_append
    simp only [merge, form, priorities_map, added, PriorityMap.add, List.foldl_append]
  | function =>
    have added : functions (first ++ second) = functions first ++ functions second :=
      List.filterMap_append
    simp only [merge, form, functions_map, added, VirtualFunction.add, List.foldl_append]
  | text | subnet | route | server | watcher | qdisc =>
    simp only [merge, form]
    exact MergePolicy.merge_append keeps held first second

/-- How a property gathers items: how it reads them, what it holds already and how the two are
merged. -/
structure Gathering (property : Property) where
  Item : Type
  State : Type
  read : String → Except Error (List Item)
  held : Profile → State
  merge : State → List Item → State
  value : State → Value
  setting_eq : ∀ (context : Context) (profile : Profile) (text : String),
    property.contract.AddsText text →
      Plan.setting context property profile text
        = (read text).map fun items => Plan.putting property (value (merge (held profile) items))
  joins : ∀ first second, Joins (read first) (read second) (read (first ++ "," ++ second))
  merge_append : ∀ state first second, merge state (first ++ second) = merge (merge state first) second
  held_put : ∀ (profile : Profile) (state : State),
    held (profile.put property.setting property.name (value state)) = state
  kind_value : ∀ state, (value state).kind = property.contract.default.kind

namespace Gathering

variable {property : Property}

def ofList {list : ListContract} (isList : property.contract = .list list)
    (comma : ',' ∈ list.separators) (keeps : list.policy ≠ .replace) : Gathering property where
  Item := NetProfile.Item
  State := List NetProfile.Item
  read := list.parseItems
  held profile := profile.list property.setting property.name
  merge := list.merge
  value := .list
  setting_eq context profile text _ := by
    unfold Plan.setting
    rw [isList]
    simp only [ListContract.add]
    cases list.parseItems text <;> rfl
  joins := list.joins_parseItems comma
  merge_append := ListContract.merge_append keeps
  held_put profile state := by simp [Profile.list, Profile.get?_put, Value.list?]
  kind_value := Property.kind_list isList

def ofOptions {spec : OptionMap} (isMap : property.contract = .options spec) : Gathering property where
  Item := String × String
  State := Dict String
  read := spec.parse
  held profile := profile.map property.setting property.name
  merge := List.foldl fun map (key, value) => map.insert key value
  value := .map
  setting_eq context profile text _ := by
    unfold Plan.setting
    rw [isMap]
    simp only [OptionMap.add]
    cases spec.parse text <;> rfl
  joins := spec.joins_parse
  merge_append _ _ _ := List.foldl_append
  held_put profile state := by simp [Profile.map, Profile.get?_put, Value.map?]
  kind_value state := by rw [isMap]; rfl

def ofDnsOptions (isDns : property.contract = .special .dnsOptions) : Gathering property where
  Item := String
  State := DnsOptions
  read := readItems (plainSeparators.elem ·) DnsOptions.check
  held profile := profile.dnsOptions property.setting property.name
  merge := List.foldl DnsOptions.add
  value := .dnsOptions
  setting_eq context profile text adds := by
    unfold Plan.setting
    rw [isDns]
    simp only [Plan.settingSpecial, Plan.addDnsOptions]
    cases read : readItems (plainSeparators.elem ·) DnsOptions.check text with
    | error error => rfl
    | ok options =>
      -- as many options as items, so there is one at least
      have notEmpty : options ≠ [] := by
        have size := Reading.length_of_mapM_eq_ok read
        intro empty
        rw [empty] at size
        exact adds isDns (List.length_eq_zero_iff.1 size.symm)
      simp [notEmpty, bind, Except.bind, pure, Except.pure, Except.map]
  joins := joins_readItems (by decide) DnsOptions.check
  merge_append _ _ _ := List.foldl_append
  held_put profile state := by simp [Profile.dnsOptions, Profile.get?_put, Value.dnsOptions?]
  kind_value := Property.kind_dnsOptions isDns

/-- Every property of the catalogue that adds the items of a text does so. -/
theorem nonempty (registered : property ∈ Catalogue.standard.properties)
    (gathers : property.contract.gathers = true) : Nonempty (Gathering property) := by
  cases contract : property.contract with
  | scalar scalar =>
    rw [contract] at gathers
    cases gathers
  | list list =>
    rw [contract] at gathers
    exact ⟨ofList contract (Catalogue.comma_mem_separators registered contract) (of_decide_eq_true gathers)⟩
  | options spec => exact ⟨ofOptions contract⟩
  | special special =>
    rw [contract] at gathers
    cases special with
    | dnsOptions => exact ⟨ofDnsOptions contract⟩
    | connectionType | wepKey | partitionKey | wifiChannel | networkName => cases gathers

variable {context : Context} {profile : Profile}

def outcome (gathering : Gathering property) (profile : Profile)
    (reading : Except Error (List gathering.Item)) : Outcome :=
  match reading with
  | .error error => { profile, error := some (error.withProperty property.name) }
  | .ok items =>
    let state := gathering.merge (gathering.held profile) items
    { profile := profile.put property.setting property.name (gathering.value state) }

theorem set_text (gathering : Gathering property) (writable : property.isReadOnly = false)
    (accepts : ∀ state, profile.accepts property.setting property.name (gathering.value state) = true)
    {text : String} (adds : property.contract.AddsText text) :
    property.set context profile (.text text) = gathering.outcome profile (gathering.read text) := by
  rw [Property.set_text_of_writable writable, gathering.setting_eq context profile text adds]
  rw [Property.carryOut_map fun items => accepts (gathering.merge (gathering.held profile) items)]
  cases gathering.read text <;> rfl

theorem accepts_of_legal (gathering : Gathering property) (legal : profile.Legal)
    (registered : property ∈ Catalogue.standard.properties) (state : gathering.State) :
    profile.accepts property.setting property.name (gathering.value state) = true :=
  legal.accepts_of_kind registered (gathering.kind_value state)

theorem accepts_put (gathering : Gathering property) (profile : Profile) (state next : gathering.State) :
    (profile.put property.setting property.name (gathering.value state)).accepts
      property.setting property.name (gathering.value next) = true := by
  simp [Profile.accepts, Profile.get?_put, gathering.kind_value]

theorem accepts_outcome (gathering : Gathering property)
    (accepts : ∀ state, profile.accepts property.setting property.name (gathering.value state) = true)
    (reading : Except Error (List gathering.Item)) (state : gathering.State) :
    (gathering.outcome profile reading).profile.accepts property.setting property.name
      (gathering.value state) = true := by
  cases reading with
  | error error => exact accepts state
  | ok items => exact gathering.accepts_put profile _ state

/-- Whether there is an error hangs on the text alone. -/
theorem error_outcome_eq (gathering : Gathering property) (profile other : Profile)
    (reading : Except Error (List gathering.Item)) :
    (gathering.outcome profile reading).error = (gathering.outcome other reading).error := by
  cases reading <;> rfl

theorem outcome_joins (gathering : Gathering property) (profile : Profile)
    {first second whole : Except Error (List gathering.Item)} (joins : Joins first second whole) :
    let early := gathering.outcome profile first
    let late := gathering.outcome early.profile second
    let joined := gathering.outcome profile whole
    (joined.error = none ↔ early.error = none ∧ late.error = none) ∧
    (joined.error = none → joined.profile = late.profile) ∧
    joined.error.map Error.report = (early.error.or late.error).map Error.report := by
  intro early late joined
  cases joins with
  | both items more =>
    have merged : joined.profile = late.profile := by
      simp only [joined, late, early, outcome, gathering.held_put, gathering.merge_append, Profile.put_put]
    exact ⟨iff_of_true rfl ⟨rfl, rfl⟩, fun _ => merged, rfl⟩
  | @first error whole alike _ =>
    have same := (alike.withProperty property.name).report_eq
    simp [joined, early, outcome, same]
  | @second items error whole alike =>
    have same := (alike.withProperty property.name).report_eq
    simp [joined, early, late, outcome, same]

end Gathering

/-- Two texts joined by a comma do what they do one after the other: the edit succeeds if both do and
then leaves the same profile, and if one fails it fails as the first of them. Whether the second
succeeds does not depend on the first. -/
theorem Reachable.set_joined {profile : Profile} (reached : Reachable profile) {property : Property}
    (registered : property ∈ Catalogue.standard.properties) (writable : property.isReadOnly = false)
    (gathers : property.contract.gathers = true) (context : Context) {first second : String}
    (firstAdds : property.contract.AddsText first) (secondAdds : property.contract.AddsText second) :
    let early := property.set context profile (.text first)
    let late := property.set context early.profile (.text second)
    let joined := property.set context profile (.text (first ++ "," ++ second))
    (joined.error = none ↔ early.error = none ∧ late.error = none) ∧
    (joined.error = none → joined.profile = late.profile) ∧
    joined.error.map Error.report = (early.error.or late.error).map Error.report ∧
    late.error = (property.set context profile (.text second)).error := by
  obtain ⟨gathering⟩ := Gathering.nonempty registered gathers
  intro early late joined
  have accepts := gathering.accepts_of_legal reached.legal registered
  have earlyEq : early = _ := gathering.set_text writable accepts firstAdds
  have joinedEq : joined = _ := gathering.set_text writable accepts (firstAdds.append second)
  have acceptsLater : ∀ state, early.profile.accepts property.setting property.name
      (gathering.value state) = true := earlyEq ▸ gathering.accepts_outcome accepts _
  have lateEq : late = _ := gathering.set_text writable acceptsLater secondAdds
  obtain ⟨errors, profiles, reports⟩ := gathering.outcome_joins profile (gathering.joins first second)
  rw [lateEq, joinedEq, earlyEq, gathering.set_text writable accepts secondAdds]
  exact ⟨errors, profiles, reports, gathering.error_outcome_eq _ _ _⟩

def Operation.setFunctions (text : String) : Operation :=
  .assign Settings.sriov.properties[1] (by decide +kernel) text

/-- A function that is there already changes in its place. A bad index is told as an error of the
whole text, and yet says the same in the longer one. -/
theorem Reachable.set_joined_functions :
    let functions := Settings.sriov.properties[1]
    let context : Context := { catalogue := .standard, freshUuid := ⟨0⟩ }
    let profile := ((Operation.setFunctions "1 trust=no,2").perform .empty).profile
    let early := functions.set context profile (.text "3")
    let joined := functions.set context profile (.text ("3" ++ "," ++ "1 trust=yes"))
    let spoiled := functions.set context profile (.text ("3" ++ "," ++ "x"))
    early.error = none ∧
      joined.profile = (functions.set context early.profile (.text "1 trust=yes")).profile ∧
      joined.profile ≠ early.profile ∧
      spoiled.error.map Error.report
        = (functions.set context early.profile (.text "x")).error.map Error.report ∧
      spoiled.error ≠ none := by
  intro functions context profile early joined spoiled
  have reached : Reachable profile := .step .empty (Operation.setFunctions "1 trust=no,2")
  have registered : functions ∈ Catalogue.standard.properties := by decide +kernel
  have adds : ∀ text, functions.contract.AddsText text := fun text isDns => absurd isDns (by decide +kernel)
  have passing := reached.set_joined registered (by decide +kernel) (by decide +kernel) context
    (adds "3") (adds "1 trust=yes")
  have failing := reached.set_joined registered (by decide +kernel) (by decide +kernel) context
    (adds "3") (adds "x")
  have earlyPasses : early.error = none := by decide +kernel
  have same := failing.2.2.1
  rw [show (functions.set context profile (.text "3")).error = none from earlyPasses, Option.none_or] at same
  exact ⟨earlyPasses, passing.2.1 (by decide +kernel), by decide +kernel, same, by decide +kernel⟩

end NetProfile
