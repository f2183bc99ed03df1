import Mathlib.Data.List.Induction
import NetProfile.Proofs.Edit.Holding
import NetProfile.Proofs.Record.ResolverOptions

/-!
Resolver options over runs of operations. Beside the options goes a plain list that takes the same
texts, and a look at the run tells whether there are options or none have ever been set: both
together are the state that the options are in.
-/

namespace NetProfile

namespace DnsOptions

def actPlain (list : List String) (action : Action) : Except Error (List String) :=
  action.on [] addPlain (removeOne check) list

def act (held : DnsOptions) (action : Action) : Except Error DnsOptions :=
  action.on .unset Plan.addDnsOptions Plan.removeDnsOption held

/-- An action makes of the options what it makes of the plain list. A text sets them, and a reset
unsets them. -/
theorem Tidy.act_eq {held : DnsOptions} (tidy : held.Tidy) (action : Action) :
    held.act action = (actPlain held.items action).map
      (ofPlain (action.givesText || held.isSet && !action.resets)) := by
  cases action with
  | remove text =>
    simp only [act, Action.on, actPlain, Action.givesText, Action.resets, Bool.false_or, Bool.not_false, Bool.and_true]
    rw [removeDnsOption_eq tidy.distinct]
  | set context standard assignment =>
    cases assignment with
    | unchanged =>
      simp only [act, actPlain, Action.givesText, Action.resets, Bool.false_or, Bool.not_false, Bool.and_true]
      exact congrArg Except.ok (ofPlain_items tidy.settled).symm
    | reset =>
      simp only [act, actPlain, Action.givesText, Action.resets, Bool.false_or, Bool.not_true, Bool.and_false]
      rfl
    | text text =>
      simp only [act, Action.on, actPlain, Action.givesText, Bool.true_or]
      rw [addDnsOptions_eq]
      rfl

theorem actPlain_of_unset {isSet : Bool} {action : Action} {before list : List String}
    (free : isSet = false → before = []) (acted : actPlain before action = .ok list)
    (unset : (action.givesText || isSet && !action.resets) = false) : list = [] := by
  cases action with
  | remove text =>
    simp only [Action.givesText, Action.resets, Bool.false_or, Bool.not_false, Bool.and_true] at unset
    obtain rfl := free unset
    exact List.eq_nil_iff_forall_not_mem.2 fun option here => by
      simpa using mem_of_removeOne acted here
  | set context standard assignment =>
    cases assignment with
    | unchanged =>
      simp only [Action.givesText, Action.resets, Bool.false_or, Bool.not_false, Bool.and_true] at unset
      cases acted
      exact free unset
    | reset =>
      cases acted
      rfl
    | text => cases unset

theorem items_eq_nil {options : DnsOptions} (free : options.isSet = false) : options.items = [] := by
  rw [isSet_eq_false.1 free]
  rfl

/-- An action that succeeds leaves the options of the plain list, tidy, and in the state that the
action is for. -/
theorem Tidy.act_ok {held after : DnsOptions} (tidy : held.Tidy) {action : Action}
    (acted : held.act action = .ok after) :
    actPlain held.items action = .ok after.items ∧
      after.isSet = (action.givesText || held.isSet && !action.resets) := by
  rw [tidy.act_eq] at acted
  obtain ⟨list, plain, rfl⟩ := Reading.map_eq_ok acted
  rw [plain, ofPlain]
  split
  · next set => exact ⟨by rw [items_ofItems], by rw [isSet_ofItems, set]⟩
  · next unset =>
    replace unset := Bool.eq_false_iff.2 unset
    rw [actPlain_of_unset items_eq_nil plain unset, unset]
    exact ⟨rfl, rfl⟩

theorem Tidy.act_error {held : DnsOptions} (tidy : held.Tidy) {action : Action} {error : Error}
    (failed : held.act action = .error error) :
    actPlain held.items action = .error error ∧ action.resets = false := by
  rw [tidy.act_eq] at failed
  cases plain : actPlain held.items action with
  | ok list =>
    rw [plain] at failed
    cases failed
  | error reason =>
    rw [plain] at failed
    cases failed
    refine ⟨rfl, ?_⟩
    unfold Action.resets
    split
    · cases plain
    · rfl

theorem Tidy.act {held after : DnsOptions} (tidy : held.Tidy) {action : Action}
    (acted : held.act action = .ok after) : after.Tidy := by
  cases action with
  | remove text => exact tidy.removeDnsOption acted
  | set context standard assignment =>
    cases assignment with
    | unchanged =>
      cases acted
      exact tidy
    | reset =>
      cases acted
      exact tidy_unset
    | text text => exact tidy.addDnsOptions acted

end DnsOptions

def Holding.dnsOptions {property : Property} (isDns : property.contract = .special .dnsOptions) :
    Holding property where
  State := DnsOptions
  initial := .unset
  value := .dnsOptions
  state? := Value.dnsOptions?
  add := Plan.addDnsOptions
  take := Plan.removeDnsOption
  state?_value _ := rfl
  kind_value := Property.kind_dnsOptions isDns
  notType := by simp [isDns]
  setting_eq context profile text := by
    simp only [Plan.setting, isDns, Plan.settingSpecial, Profile.dnsOptions]
    generalize Plan.addDnsOptions _ text = added
    cases added <;> rfl
  removing_eq profile text := by
    simp only [Plan.removing, isDns, Profile.dnsOptions]
    generalize Plan.removeDnsOption _ text = left
    cases left <;> rfl

theorem Operation.answers_dnsOptions {operation : Operation}
    (isDns : operation.property.contract = .special .dnsOptions) {profile : Profile} (legal : profile.Legal) :
    (operation.perform profile).Answers operation.property
      (·.dnsOptions operation.property.setting operation.property.name) profile
      ((profile.dnsOptions operation.property.setting operation.property.name).act operation.action) :=
  Holding.answers_perform (.dnsOptions isDns)
    (fun _ => Catalogue.writable_of_special operation.registered isDns) legal

namespace Property

/-- The plain list of options that goes through a run beside the property. A failing operation leaves
it as it is. -/
def plainOptions (property : Property) (operations : List Operation) : List String :=
  operations.foldl (fun list operation =>
    if operation.property = property then (DnsOptions.actPlain list operation.action).toOption.getD list
    else list) []

theorem plainOptions_append (property : Property) (operations : List Operation) (last : Operation) :
    property.plainOptions (operations ++ [last]) =
      if last.property = property then
        (DnsOptions.actPlain (property.plainOptions operations) last.action).toOption.getD
          (property.plainOptions operations)
      else property.plainOptions operations := by
  rw [plainOptions, List.foldl_append]
  rfl

/-- In the run a text has been set successfully, and the property has not been reset since. -/
def SetSinceReset (property : Property) (operations : List Operation) : Prop :=
  ∃ earlier operation later, operations = earlier ++ operation :: later ∧
    operation.property = property ∧ operation.action.givesText = true ∧
    (operation.perform (Profile.empty.after earlier)).error = none ∧
    ∀ other ∈ later, other.property = property → other.action.resets = false

variable {property : Property}

theorem not_setSinceReset_nil : ¬property.SetSinceReset [] := by
  rintro ⟨earlier, operation, later, shape, -⟩
  exact absurd shape.symm (by simp)

theorem setSinceReset_append {operations : List Operation} {last : Operation} :
    property.SetSinceReset (operations ++ [last]) ↔
      (last.property = property ∧ last.action.givesText = true ∧
        (last.perform (Profile.empty.after operations)).error = none) ∨
      (last.property = property → last.action.resets = false) ∧ property.SetSinceReset operations := by
  constructor
  · rintro ⟨earlier, operation, later, shape, own, text, passed, kept⟩
    rcases List.eq_nil_or_concat later with rfl | ⟨before, final, rfl⟩
    · obtain ⟨rfl, same⟩ := List.append_inj' shape rfl
      cases same
      exact .inl ⟨own, text, passed⟩
    · have regrouped : operations ++ [last] = (earlier ++ operation :: before) ++ [final] := by
        rw [shape]
        simp
      obtain ⟨rfl, same⟩ := List.append_inj' regrouped rfl
      cases same
      refine .inr ⟨kept last (by simp), earlier, operation, before, rfl, own, text, passed, ?_⟩
      exact fun other here => kept other (by simp [here])
  · rintro (⟨own, text, passed⟩ | ⟨noReset, earlier, operation, later, rfl, own, text, passed, kept⟩)
    · exact ⟨operations, last, [], rfl, own, text, passed, by simp⟩
    · refine ⟨earlier, operation, later ++ [last], by simp, own, text, passed, fun other here => ?_⟩
      rcases List.mem_append.1 here with inside | final
      · exact kept other inside
      · rw [List.mem_singleton.1 final]
        exact noReset

structure Tracks (property : Property) (operations : List Operation) (options : DnsOptions) : Prop where
  tidy : options.Tidy
  items : options.items = property.plainOptions operations
  isSet : options.isSet = true ↔ property.SetSinceReset operations

theorem tracks_nil : property.Tracks [] .unset where
  tidy := DnsOptions.tidy_unset
  items := rfl
  isSet := iff_of_false (by decide) not_setSinceReset_nil

/-- Operations on other properties leave the options and the plain list alone. -/
theorem Tracks.of_other {operations : List Operation} {options : DnsOptions}
    (tracks : property.Tracks operations options) {last : Operation} (other : last.property ≠ property) :
    property.Tracks (operations ++ [last]) options where
  tidy := tracks.tidy
  items := by rw [plainOptions_append, if_neg other, tracks.items]
  isSet := by simp [tracks.isSet, setSinceReset_append, other]

theorem Tracks.of_own {last : Operation} {operations : List Operation} {options : DnsOptions}
    (tracks : last.property.Tracks operations options)
    (answers : (last.perform (Profile.empty.after operations)).Answers last.property
      (·.dnsOptions last.property.setting last.property.name) (Profile.empty.after operations)
      (options.act last.action)) :
    last.property.Tracks (operations ++ [last]) ((options.act last.action).toOption.getD options) := by
  have plainStep := plainOptions_append last.property operations last
  rw [if_pos rfl, ← tracks.items] at plainStep
  cases acted : options.act last.action with
  | error error =>
    obtain ⟨plain, noReset⟩ := tracks.tidy.act_error acted
    rw [acted] at answers
    rw [plain] at plainStep
    refine ⟨tracks.tidy, plainStep.symm, ?_⟩
    rw [setSinceReset_append, answers.1, ← tracks.isSet]
    simp [noReset, Except.toOption]
  | ok after =>
    obtain ⟨plain, isSet⟩ := tracks.tidy.act_ok acted
    rw [acted] at answers
    rw [plain] at plainStep
    refine ⟨tracks.tidy.act acted, plainStep.symm, ?_⟩
    rw [setSinceReset_append, answers.1, ← tracks.isSet]
    simp [isSet, Except.toOption, and_comm]

theorem dnsOptions_of_name : ∀ property ∈ Catalogue.standard.properties, property.name = "dns-options" →
    property.contract = .special .dnsOptions ∧ property.default = .dnsOptions .unset := by
  decide +kernel

theorem tracks_after (registered : property ∈ Catalogue.standard.properties)
    (name : property.name = "dns-options") (operations : List Operation) :
    property.Tracks operations
      ((Profile.empty.after operations).dnsOptions property.setting property.name) := by
  induction operations using List.reverseRecOn with
  | nil => exact tracks_nil
  | append_singleton operations last ih =>
    rw [Profile.after_append]
    show property.Tracks _ ((last.perform (Profile.empty.after operations)).profile.dnsOptions _ _)
    by_cases own : last.property = property
    · subst own
      have isDns := (dnsOptions_of_name last.property registered name).1
      have legal := (Reachable.empty.after operations).legal
      have answers := Operation.answers_dnsOptions isDns legal
      rw [answers.held_eq]
      exact ih.of_own answers
    · have isDns := (dnsOptions_of_name property registered name).1
      have kept : (last.perform (Profile.empty.after operations)).profile.dnsOptions property.setting property.name
          = (Profile.empty.after operations).dnsOptions property.setting property.name :=
        (Holding.dnsOptions isDns).held_perform_of_other registered own _
      rw [kept]
      exact ih.of_other own

theorem isDefault_iff_unset (registered : property ∈ Catalogue.standard.properties)
    (name : property.name = "dns-options") {profile : Profile} (legal : profile.Legal) :
    property.isDefault profile = true ↔ profile.dnsOptions property.setting property.name = .unset := by
  obtain ⟨isDns, usual⟩ := dnsOptions_of_name property registered name
  simp only [isDefault, isDns, Contract.isDefault, value, Profile.dnsOptions, beq_iff_eq]
  cases stored : profile.get? property.setting property.name with
  | none => simp [usual]
  | some held =>
    have reads := (legal _ _ held stored).reads registered
    rw [isDns] at reads
    cases held with
    | dnsOptions options => simp [Value.dnsOptions?]
    | bool | int | text | octets | list | map | slots => exact reads.elim

theorem text_render_dnsOptions (registered : property ∈ Catalogue.standard.properties)
    (name : property.name = "dns-options") (profile : Profile) (mode : Mode) (reveal : Bool) :
    (property.render profile mode reveal).text
      = String.intercalate "," (profile.dnsOptions property.setting property.name).items := by
  obtain ⟨isDns, usual⟩ := dnsOptions_of_name property registered name
  have shown : property.isSecret = false := Catalogue.not_isSecret registered (by rw [isDns]; rfl)
  simp only [render, shown, Bool.false_and, Bool.false_eq_true, if_false, isDns, Contract.format, Special.format,
    value, Profile.dnsOptions]
  cases profile.get? property.setting property.name with
  | none => simp [usual, Value.dnsOptions?]
  | some held => cases held <;> rfl

/-- Options that are set are set again, to the same state, by the text that is shown of them. -/
theorem set_rendered_dnsOptions (registered : property ∈ Catalogue.standard.properties)
    (name : property.name = "dns-options") {profile : Profile} {options : DnsOptions}
    (held : profile.dnsOptions property.setting property.name = options) (tidy : options.Tidy)
    (set : options ≠ .unset) (context : Context) (reveal : Bool) :
    let fresh := property.set context .empty (.text (property.render profile .parsable reveal).text)
    fresh.error = none ∧ fresh.profile.dnsOptions property.setting property.name = options := by
  have isDns := (dnsOptions_of_name property registered name).1
  have answers := Holding.answers_set (.dnsOptions isDns) registered Profile.Legal.empty
    (Catalogue.writable_of_special registered isDns) context (property.render profile .parsable reveal).text
  rw [property.text_render_dnsOptions registered name, held] at answers ⊢
  have read : Plan.addDnsOptions .unset (String.intercalate "," options.items) = .ok options :=
    tidy.addDnsOptions_intercalate set
  change Outcome.Answers _ _ _ _ (Plan.addDnsOptions .unset (String.intercalate "," options.items)) at answers
  rw [read] at answers
  exact answers

end Property

/-- After any run the resolver options are valid and different, and never a list without any. They are
set, and not at their default, if a text has been set successfully since the last reset. They are those
of a plain list to which new options are added at the end, and every operation fails where the plain
list does. Options that are set are set again, to the same state, by the text that is shown of them. -/
theorem dnsOptions_of_run {property : Property} (registered : property ∈ Catalogue.standard.properties)
    (name : property.name = "dns-options") (operations : List Operation) :
    let profile := Profile.empty.after operations
    let options := profile.dnsOptions property.setting property.name
    options.Tidy ∧
    (options = .unset ↔ ¬property.SetSinceReset operations) ∧
    (options = .unset ↔ property.isDefault profile = true) ∧
    options.items = property.plainOptions operations ∧
    (∀ operation : Operation, operation.property = property →
      (operation.perform profile).error = match DnsOptions.actPlain options.items operation.action with
        | .error error => some (error.withProperty property.name)
        | .ok _ => none) ∧
    (options ≠ .unset → ∀ (context : Context) (reveal : Bool),
      let fresh := property.set context .empty (.text (property.render profile .parsable reveal).text)
      fresh.error = none ∧ fresh.profile.dnsOptions property.setting property.name = options) := by
  intro profile options
  have isDns := (Property.dnsOptions_of_name property registered name).1
  have legal : profile.Legal := (Reachable.empty.after operations).legal
  have tracks : property.Tracks operations options := property.tracks_after registered name operations
  refine ⟨tracks.tidy, ?_, (property.isDefault_iff_unset registered name legal).symm, tracks.items, ?_, ?_⟩
  · rw [← tracks.isSet, Bool.not_eq_true]
    exact DnsOptions.isSet_eq_false.symm
  · rintro operation rfl
    have answers := Operation.answers_dnsOptions isDns legal
    change Outcome.Answers _ _ _ _ (options.act operation.action) at answers
    cases acted : options.act operation.action with
    | error error =>
      rw [acted] at answers
      rw [(tracks.tidy.act_error acted).1]
      exact answers.1
    | ok after =>
      rw [acted] at answers
      rw [(tracks.tidy.act_ok acted).1]
      exact answers.1
  · exact property.set_rendered_dnsOptions registered name rfl tracks.tidy

namespace Operation

def resolverProperty : Property := Settings.ipv6.properties[3]

theorem resolverProperty_mem : resolverProperty ∈ Catalogue.standard.properties := by decide +kernel

def setResolver (text : String) : Operation := .assign resolverProperty resolverProperty_mem text

def removeResolver (text : String) : Operation where
  property := resolverProperty
  registered := resolverProperty_mem
  action := .remove text

end Operation

/-- The last option goes by its position, and what is left is an empty list, which is no default. -/
theorem dnsOptions_of_run_emptied :
    let operations := [Operation.setResolver "rotate timeout:2,rotate", .removeResolver "timeout:2",
      .removeResolver "0"]
    let profile := Profile.empty.after operations
    let options := profile.dnsOptions "ipv6" "dns-options"
    options = .empty ∧ options.Tidy ∧ Operation.resolverProperty.SetSinceReset operations ∧
      Operation.resolverProperty.isDefault profile = false := by
  intro operations profile options
  have run := dnsOptions_of_run Operation.resolverProperty_mem (by decide +kernel) operations
  have empty : options = .empty := by decide +kernel
  have set : (Profile.empty.after operations).dnsOptions Operation.resolverProperty.setting
      Operation.resolverProperty.name ≠ .unset := by decide +kernel
  refine ⟨empty, run.1, ?_, ?_⟩
  · by_contra never
    exact set (run.2.1.2 never)
  · exact Bool.eq_false_iff.2 fun usual => set (run.2.2.1.2 usual)

end NetProfile
