import NetProfile.Proofs.Edit.Independence
import NetProfile.Proofs.Edit.Legal
import NetProfile.Proofs.Edit.ReadOnly

/-!
Properties that keep a state in their field, such as a list. A text adds to the state, or takes from
it, or is refused and changes nothing; a reset goes back to the initial state. What operations do to
such a property is what they do to its state, and operations on other properties do nothing to it.
-/

namespace NetProfile

def Action.on {σ : Type} (initial : σ) (add take : σ → String → Except Error σ) (state : σ) :
    Action → Except Error σ
  | .set _ _ .unchanged => .ok state
  | .set _ _ .reset => .ok initial
  | .set _ _ (.text text) => add state text
  | .remove text => take state text

/-- How a property keeps a state, and what texts make of the state. -/
structure Holding (property : Property) where
  State : Type
  initial : State
  value : State → Value
  state? : Value → Option State
  add : State → String → Except Error State
  take : State → String → Except Error State
  state?_value : ∀ state, state? (value state) = some state
  kind_value : ∀ state, (value state).kind = property.contract.default.kind
  notType : property.contract ≠ .special .connectionType
  setting_eq : ∀ (context : Context) (profile : Profile) (text : String),
    Plan.setting context property profile text =
      (add (((profile.get? property.setting property.name).bind state?).getD initial) text).map
        fun state => Plan.putting property (value state)
  removing_eq : ∀ (profile : Profile) (text : String),
    Plan.removing property profile text =
      (take (((profile.get? property.setting property.name).bind state?).getD initial) text).map
        fun state => Plan.putting property (value state)

/-- The outcome of an action on a state: either the new state is held, or all stays as it was. -/
def Outcome.Answers {σ : Type} (outcome : Outcome) (property : Property) (held : Profile → σ)
    (before : Profile) (acted : Except Error σ) : Prop :=
  match acted with
  | .error error => outcome.error = some (error.withProperty property.name) ∧ outcome.profile = before
  | .ok state => outcome.error = none ∧ held outcome.profile = state

theorem Outcome.Answers.held_eq {σ : Type} {outcome : Outcome} {property : Property} {held : Profile → σ}
    {before : Profile} {acted : Except Error σ} (answers : outcome.Answers property held before acted) :
    held outcome.profile = acted.toOption.getD (held before) := by
  cases acted with
  | error error => rw [answers.2]; rfl
  | ok state => exact answers.2

namespace Holding

variable {property : Property} (holding : Holding property)

def held (profile : Profile) : holding.State :=
  ((profile.get? property.setting property.name).bind holding.state?).getD holding.initial

def act (state : holding.State) (action : Action) : Except Error holding.State :=
  action.on holding.initial holding.add holding.take state

variable {profile : Profile}

theorem held_put (state : holding.State) :
    holding.held (profile.put property.setting property.name (holding.value state)) = state := by
  simp [held, Profile.get?_put, holding.state?_value]

theorem held_reset :
    holding.held (profile.reset property.setting property.name) = holding.initial := by
  simp [held, Profile.get?_reset]

theorem answers_carryOut (registered : property ∈ Catalogue.standard.properties) (legal : profile.Legal)
    (reading : Except Error holding.State) :
    (property.carryOut profile (reading.map fun state => Plan.putting property (holding.value state))).Answers
      property holding.held profile reading := by
  have accepts : ∀ state, profile.accepts property.setting property.name (holding.value state) = true :=
    fun state => legal.accepts_of_kind registered (holding.kind_value state)
  rw [Property.carryOut_map accepts]
  cases reading with
  | error error => exact ⟨rfl, rfl⟩
  | ok state => exact ⟨rfl, holding.held_put state⟩

variable (registered : property ∈ Catalogue.standard.properties) (legal : profile.Legal)
include registered legal

theorem answers_set (writable : property.isReadOnly = false) (context : Context) (text : String) :
    (property.set context profile (.text text)).Answers property holding.held profile
      (holding.add (holding.held profile) text) := by
  rw [Property.set_text_of_writable writable, holding.setting_eq]
  exact holding.answers_carryOut registered legal _

theorem answers_remove (text : String) :
    (property.remove profile text).Answers property holding.held profile
      (holding.take (holding.held profile) text) := by
  rw [Property.remove, holding.removing_eq]
  exact holding.answers_carryOut registered legal _

end Holding

/-- Whatever is done to the property is done to its state, unless a read-only property is set. -/
theorem Holding.answers_perform {operation : Operation} (holding : Holding operation.property)
    (allowed : operation.action.sets = true → operation.property.isReadOnly = false) {profile : Profile}
    (legal : profile.Legal) :
    (operation.perform profile).Answers operation.property holding.held profile
      (holding.act (holding.held profile) operation.action) := by
  obtain ⟨property, registered, action⟩ := operation
  cases action with
  | remove text => exact holding.answers_remove registered legal text
  | set context standard assignment =>
    have writable : property.isReadOnly = false := allowed rfl
    cases assignment with
    | unchanged => exact ⟨rfl, rfl⟩
    | text text => exact holding.answers_set registered legal writable context text
    | reset =>
      have emptied : Plan.resetting property profile
          = .ok { changes := [.reset property.setting property.name] } := by
        simp only [Plan.resetting, if_neg holding.notType]
        rfl
      simp only [Operation.perform, Property.set, writable, Bool.false_eq_true, if_false, emptied]
      exact ⟨rfl, holding.held_reset⟩

/-- What holds of the state, and of all that the action makes of it, holds of it afterwards. -/
theorem Holding.held_perform {operation : Operation} (holding : Holding operation.property) {profile : Profile}
    (legal : profile.Legal) (holds : holding.State → Prop) (here : holds (holding.held profile))
    (kept : ∀ after, holding.act (holding.held profile) operation.action = .ok after → holds after) :
    holds (holding.held (operation.perform profile).profile) := by
  by_cases refused : operation.property.isReadOnly = true ∧ operation.action.sets = true
  · rw [Operation.profile_set_readOnly refused.1 refused.2]
    exact here
  · have allowed : operation.action.sets = true → operation.property.isReadOnly = false := fun sets =>
      Bool.eq_false_iff.2 fun readOnly => refused ⟨readOnly, sets⟩
    rw [(holding.answers_perform allowed legal).held_eq]
    cases acted : holding.act (holding.held profile) operation.action with
    | error error => exact here
    | ok after => exact kept after acted

def Contract.isSingle : Contract → Bool
  | .list _ | .options _ | .special .dnsOptions => false
  | _ => true

theorem Plan.removing_of_isSingle {property : Property} (single : property.contract.isSingle = true)
    (profile : Profile) (text : String) : removing property profile text = .ok {} := by
  unfold removing
  split
  · next isList => simp [isList, Contract.isSingle] at single
  · next isMap => simp [isMap, Contract.isSingle] at single
  · next isDns => simp [isDns, Contract.isSingle] at single
  · rfl

theorem Property.isSingle_of_isWep {property : Property} (registered : property ∈ Catalogue.standard.properties)
    (wep : property.IsWep) : property.contract.isSingle = true := by
  have single : ∀ property ∈ Catalogue.standard.properties, property.setting = wirelessSecurity →
      property.name ∈ "wep-key-type" :: "wep-tx-keyidx" :: WepKey.slotNames →
      property.contract.isSingle = true := by decide +kernel
  exact single property registered wep.1 wep.2

namespace Holding

variable {property : Property} (holding : Holding property)
include holding

/-- What is kept as a state has parts, since a text can take something from it. -/
theorem not_isSingle : property.contract.isSingle = false := by
  rw [Bool.eq_false_iff]
  intro single
  have nothing := holding.removing_eq .empty ""
  rw [Plan.removing_of_isSingle single] at nothing
  generalize holding.take _ "" = taken at nothing
  cases taken with
  | error error => cases nothing
  | ok state => cases nothing

variable (registered : property ∈ Catalogue.standard.properties)
include registered

theorem held_perform_of_other {operation : Operation} (other : operation.property ≠ property)
    (profile : Profile) : holding.held (operation.perform profile).profile = holding.held profile := by
  have parts := holding.not_isSingle
  have uses : property.Uses property.setting property.name := by
    refine Property.uses_own fun scalar isScalar => ?_
    rw [isScalar] at parts
    cases parts
  have notWep : ¬property.IsWep := fun wep => by
    rw [Property.isSingle_of_isWep registered wep] at parts
    cases parts
  have spared := Property.not_uses_both registered operation.registered other.symm (fun both => notWep both.1) uses
  rw [held, Operation.get?_perform spared profile]
  rfl

/-- What the actions of a run keep holds of the state in the end, and failing actions keep everything. -/
theorem held_after_invariant (holds : holding.State → Prop) (initially : holds holding.initial)
    (operations : List Operation)
    (kept : ∀ operation ∈ operations, operation.property = property → ∀ state after, holds state →
      holding.act state operation.action = .ok after → holds after) :
    holds (holding.held (Profile.empty.after operations)) := by
  have both : (Profile.empty.after operations).Legal ∧ holds (holding.held (Profile.empty.after operations)) := by
    apply Profile.after_invariant (fun after => after.Legal ∧ holds (holding.held after)) ?_ ⟨.empty, initially⟩
    rintro before operation member ⟨legal, here⟩
    refine ⟨operation.legal_perform legal, ?_⟩
    by_cases own : operation.property = property
    · subst own
      exact holding.held_perform legal holds here fun after acted => kept operation member rfl _ after here acted
    · rw [holding.held_perform_of_other registered own]
      exact here
  exact both.2

end Holding

def Holding.list {property : Property} {list : ListContract} (isList : property.contract = .list list) :
    Holding property where
  State := List Item
  initial := []
  value := .list
  state? := Value.list?
  add := list.add
  take := list.remove
  state?_value _ := rfl
  kind_value := Property.kind_list isList
  notType := by simp [isList]
  setting_eq context profile text := by
    simp only [Plan.setting, isList, Profile.list]
    generalize list.add _ text = added
    cases added <;> rfl
  removing_eq profile text := by
    simp only [Plan.removing, isList, Profile.list]
    generalize list.remove _ text = left
    cases left <;> rfl

def Action.given? : Action → Option String
  | .set _ _ (.text text) => some text
  | _ => none

def Property.Gives (property : Property) (list : ListContract) (operations : List Operation) (item : Item) : Prop :=
  ∃ operation ∈ operations, operation.property = property ∧
    ∃ text items, operation.action.given? = some text ∧ list.parseItems text = .ok items ∧ item ∈ items

/-- Every item that a list holds after a run comes from a text that was set in the run. -/
theorem Property.gives_of_mem {property : Property} (registered : property ∈ Catalogue.standard.properties)
    {list : ListContract} (isList : property.contract = .list list) (operations : List Operation) :
    ∀ item ∈ (Profile.empty.after operations).list property.setting property.name,
      property.Gives list operations item := by
  have nothing : ∀ item ∈ ([] : List Item), property.Gives list operations item := by simp
  apply (Holding.list isList).held_after_invariant registered
    (fun held : List Item => ∀ item ∈ held, property.Gives list operations item) nothing operations
  intro operation member own held after before acted item here
  obtain ⟨target, known, action⟩ := operation
  cases action with
  | remove text => exact before item (ListContract.mem_of_remove acted here)
  | set context standard assignment =>
    cases assignment with
    | unchanged =>
      cases acted
      exact before item here
    | reset =>
      cases acted
      cases here
    | text text =>
      obtain ⟨items, read, rfl⟩ := Reading.map_eq_ok acted
      rcases ListContract.mem_merge here with earlier | new
      · exact before item earlier
      · exact ⟨_, member, own, text, items, rfl, read, new⟩

end NetProfile
