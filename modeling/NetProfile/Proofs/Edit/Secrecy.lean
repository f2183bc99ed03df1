import NetProfile.Proofs.Edit.Footprint
import NetProfile.Proofs.Edit.Legal

/-!
Secrets stay secret. Two profiles that differ in nothing but secrets give the same results and the
same answers, and they still differ in nothing but secrets after any operation. Only the warnings that
come with a new type of WEP keys tell something about the stored keys.
-/

namespace NetProfile

open Catalogue (IsSecretField)

/-- Every field but those of secret properties is the same, in value and in presence. -/
def Profile.AgreeOutsideSecrets (left right : Profile) : Prop :=
  ∀ setting key, ¬IsSecretField setting key → left.get? setting key = right.get? setting key

def Operation.SetsWepKeyType (operation : Operation) : Prop :=
  operation.property.setting = wirelessSecurity ∧ operation.property.name = "wep-key-type" ∧
    operation.action.givesText = true

/-- The secrets that grow from what is stored of them. -/
def Property.IsSecretMap (property : Property) : Prop :=
  property.isSecret = true ∧ ∃ spec, property.contract = .options spec

section Plans

variable {left right : Profile} (agree : left.AgreeOutsideSecrets right)

include agree

theorem Profile.AgreeOutsideSecrets.agreeFor {property : Property}
    (registered : property ∈ Catalogue.standard.properties) (notMap : ¬property.IsSecretMap) :
    left.AgreeFor property right := by
  -- whatever else a property looks at is public, so only its own field can be a secret
  have own : property.isSecret = false →
      left.get? property.setting property.name = right.get? property.setting property.name := by
    intro notSecret
    apply agree
    intro secret
    rw [Catalogue.isSecret_of_isSecretField registered secret] at notSecret
    cases notSecret
  have regular := Catalogue.regular_of_mem registered
  obtain ⟨uuid, -, type, index⟩ := Catalogue.companions_public
  intro key here
  unfold Property.looked at here
  split at here
  · next isList =>
    rw [List.mem_singleton.1 here]
    exact own (Catalogue.not_isSecret registered (by rw [isList]; rfl))
  · next isMap =>
    rw [List.mem_singleton.1 here]
    exact own (Bool.eq_false_iff.2 fun secret => notMap ⟨secret, _, isMap⟩)
  · next isDns =>
    rw [List.mem_singleton.1 here]
    exact own (Catalogue.not_isSecret registered (by rw [isDns]; rfl))
  · next isType =>
    rw [List.mem_singleton.1 here, (regular.type.1 isType).1]
    exact agree _ _ uuid
  · next slot isKey =>
    rw [regular.wepKey slot isKey]
    simp only [List.mem_cons, List.not_mem_nil, or_false] at here
    rcases here with rfl | rfl
    · exact agree _ _ type
    · exact agree _ _ index
  · cases here

theorem Plan.settingScalar_congr {property : Property}
    (registered : property ∈ Catalogue.standard.properties) {scalar : Scalar}
    (isScalar : property.contract = .scalar scalar) (notType : ∀ spec, scalar ≠ .wepKeyType spec)
    (text : String) :
    settingScalar property scalar left text = settingScalar property scalar right text := by
  unfold settingScalar
  cases scalar with
  | wepKeyType spec => exact absurd rfl (notType spec)
  | slots rule switch =>
    have flags : left.int? property.setting switch = right.int? property.setting switch :=
      congrArg (Option.bind · Value.int?) (agree _ _ (Catalogue.switch_public registered (by rw [isScalar]; rfl)))
    have reminders : slotsReminder left property.setting switch
        = slotsReminder right property.setting switch := by
      unfold slotsReminder
      rw [flags]
    simp only [reminders]
  | text | bool | integer | mtu | hardwareAddress | octets | enumeration | ternary | features => rfl

/-- But for the two exceptions, an operation plans the same, down to what it says. -/
theorem Operation.plan_congr {operation : Operation} (notMap : ¬operation.property.IsSecretMap)
    (quiet : ¬operation.SetsWepKeyType) : operation.plan left = operation.plan right := by
  have looked := agree.agreeFor operation.registered notMap
  obtain ⟨property, registered, action⟩ := operation
  unfold plan
  cases action with
  | remove text => exact Plan.removing_congr looked
  | set context standard assignment =>
    cases assignment with
    | unchanged => rfl
    | reset => simp only [Plan.resetting_congr looked]
    | text text =>
      simp only
      split
      · rfl
      · by_cases isScalar : ∃ scalar, property.contract = .scalar scalar
        · obtain ⟨scalar, isScalar⟩ := isScalar
          have notType : ∀ spec, scalar ≠ .wepKeyType spec := by
            rintro spec rfl
            obtain ⟨setting, name⟩ := Catalogue.place_of_wepKeyType property registered (by rw [isScalar]; rfl)
            exact quiet ⟨setting, name, rfl⟩
          simp only [Plan.setting, isScalar]
          exact Plan.settingScalar_congr agree registered isScalar notType text
        · exact Plan.setting_congr (fun scalar same => isScalar ⟨scalar, same⟩) looked

end Plans

/-- What a map holds decides neither whether a text is read nor what the error is. -/
theorem Operation.plan_of_isSecretMap {operation : Operation} (map : operation.property.IsSecretMap)
    (left right : Profile) : operation.plan left = operation.plan right ∨
      ∃ first second, operation.plan left = .ok (Plan.putting operation.property first) ∧
        operation.plan right = .ok (Plan.putting operation.property second) := by
  obtain ⟨property, registered, action⟩ := operation
  obtain ⟨-, spec, isMap⟩ := map
  replace isMap : property.contract = .options spec := isMap
  unfold plan
  cases action with
  | remove text =>
    simp only [Plan.removing, isMap, OptionMap.remove]
    cases readItems Text.isComma (fun key => spec.resolve (Text.trim key)) text with
    | error error => exact .inl rfl
    | ok keys => exact .inr ⟨_, _, rfl, rfl⟩
  | set context standard assignment =>
    cases assignment with
    | unchanged => exact .inl rfl
    | reset =>
      simp only [Plan.resetting, isMap]
      exact .inl rfl
    | text text =>
      simp only
      split
      · exact .inl rfl
      · simp only [Plan.setting, isMap, OptionMap.add]
        cases spec.parse text with
        | error error => exact .inl rfl
        | ok pairs => exact .inr ⟨_, _, rfl, rfl⟩

/-- On a legal profile, what a caller sees of an operation is what has been planned. -/
theorem Operation.seen_of_legal {profile : Profile} (legal : profile.Legal) (operation : Operation) :
    (operation.perform profile).error = (match operation.plan profile with
      | .error error => some (error.withProperty operation.property.name)
      | .ok _ => none) ∧
    (operation.perform profile).advisories = match operation.plan profile with
      | .error _ => []
      | .ok plan => plan.advisories ++ plan.reminders := by
  cases planned : operation.plan profile with
  | error error =>
    rw [perform_of_error planned]
    exact ⟨rfl, rfl⟩
  | ok plan =>
    obtain ⟨after, -, performed⟩ := perform_of_plan legal planned
    rw [performed]
    exact ⟨rfl, rfl⟩

theorem Operation.changeAll_of_moves {profile : Profile} (legal : profile.Legal) {operation : Operation}
    {changes : List Change} (moved : operation.moves profile = .ok changes) :
    profile.changeAll changes = ((operation.perform profile).profile, none) := by
  obtain ⟨plan, planned, rfl⟩ := Reading.map_eq_ok moved
  obtain ⟨after, made, performed⟩ := perform_of_plan legal planned
  rw [made, performed]

section Results

variable {left right : Profile} (leftLegal : left.Legal) (rightLegal : right.Legal)
  (agree : left.AgreeOutsideSecrets right)

include leftLegal rightLegal agree

theorem Operation.error_eq (operation : Operation) :
    (operation.perform left).error = (operation.perform right).error := by
  by_cases map : operation.property.IsSecretMap
  · rw [(seen_of_legal leftLegal operation).1, (seen_of_legal rightLegal operation).1]
    rcases plan_of_isSecretMap map left right with same | ⟨first, second, leftPlan, rightPlan⟩
    · rw [same]
    · rw [leftPlan, rightPlan]
  · have same := moves_congr (agree.agreeFor operation.registered map)
    rw [error_perform, error_perform, ← same]
    cases moved : operation.moves left with
    | error error => rfl
    | ok changes =>
      simp only [changeAll_of_moves leftLegal moved, changeAll_of_moves rightLegal (same ▸ moved)]

theorem Operation.advisories_eq {operation : Operation} (quiet : ¬operation.SetsWepKeyType) :
    (operation.perform left).advisories = (operation.perform right).advisories := by
  rw [(seen_of_legal leftLegal operation).2, (seen_of_legal rightLegal operation).2]
  by_cases map : operation.property.IsSecretMap
  · rcases plan_of_isSecretMap map left right with same | ⟨first, second, leftPlan, rightPlan⟩
    · rw [same]
    · rw [leftPlan, rightPlan]
      rfl
  · rw [plan_congr agree map quiet]

theorem Operation.agree_perform (operation : Operation) :
    (operation.perform left).profile.AgreeOutsideSecrets (operation.perform right).profile := by
  intro setting key notSecret
  by_cases map : operation.property.IsSecretMap
  · -- the map may grow differently in the two profiles, but no other field is touched
    have spared : ¬operation.property.Uses setting key := by
      rintro ⟨rfl, own⟩
      obtain ⟨secret, spec, isMap⟩ := map
      simp only [Property.used, Property.looked, isMap, List.mem_cons, List.not_mem_nil, or_false, or_self]
        at own
      exact notSecret ⟨operation.property, operation.registered, secret, rfl, own.symm⟩
    rw [get?_perform spared, get?_perform spared]
    exact agree setting key notSecret
  · have moves := moves_congr (agree.agreeFor operation.registered map)
    cases moved : operation.moves left with
    | error error =>
      rw [profile_perform, profile_perform, ← moves, moved]
      exact agree setting key notSecret
    | ok changes =>
      exact Profile.get?_changeAll_congr (changeAll_of_moves leftLegal moved)
        (changeAll_of_moves rightLegal (moves ▸ moved)) (agree setting key notSecret)

end Results

/-- What can be asked about a property without changing the profile, as long as secrets are hidden. -/
inductive Question where
  | value (mode : Mode)
  | words (context : Context)
  | suggestions (context : Context) (text : String)

inductive Answer where
  | rendered (rendered : Rendered)
  | texts (texts : List String)

def Property.answer (property : Property) (profile : Profile) : Question → Answer
  | .value mode => .rendered (property.render profile mode false)
  | .words context => .texts (property.words context)
  | .suggestions context text => .texts (property.complete context (some profile) text)

theorem Property.answer_eq {left right : Profile} (agree : left.AgreeOutsideSecrets right)
    {property : Property} (registered : property ∈ Catalogue.standard.properties) (question : Question) :
    property.answer left question = property.answer right question := by
  cases question with
  | words context => rfl
  | suggestions context text =>
    have master : left.text? "connection" "slave-type" = right.text? "connection" "slave-type" :=
      congrArg (Option.bind · Value.text?) (agree _ _ Catalogue.companions_public.2.1)
    simp only [answer, complete, masters, Option.bind_some, master]
  | value mode =>
    by_cases secret : property.isSecret = true
    · simp [answer, render, secret]
    · have own : left.get? property.setting property.name = right.get? property.setting property.name :=
        agree _ _ fun field => secret (Catalogue.isSecret_of_isSecretField registered field)
      simp only [answer, render, isDefault, value, own]

namespace Reachable

variable {left right : Profile}

theorem agree_after (leftReached : Reachable left) (rightReached : Reachable right)
    (agree : left.AgreeOutsideSecrets right) (operations : List Operation) :
    (left.after operations).AgreeOutsideSecrets (right.after operations) := by
  induction operations generalizing left right with
  | nil => exact agree
  | cons operation rest ih =>
    exact ih (leftReached.step operation) (rightReached.step operation)
      (operation.agree_perform leftReached.legal rightReached.legal agree)

/-- Whoever sees only results and answers learns nothing about secrets, however the run goes on. -/
theorem secrets_unseen (leftReached : Reachable left) (rightReached : Reachable right)
    (agree : left.AgreeOutsideSecrets right) :
    (∀ operation : Operation,
      (operation.perform left).error = (operation.perform right).error ∧
      (operation.perform left).profile.AgreeOutsideSecrets (operation.perform right).profile ∧
      (¬operation.SetsWepKeyType →
        (operation.perform left).advisories = (operation.perform right).advisories)) ∧
    (∀ property ∈ Catalogue.standard.properties, ∀ question,
      property.answer left question = property.answer right question) ∧
    ∀ operations, (left.after operations).AgreeOutsideSecrets (right.after operations) := by
  have leftLegal := leftReached.legal
  have rightLegal := rightReached.legal
  refine ⟨fun operation => ⟨?_, ?_, fun quiet => ?_⟩, fun property registered question => ?_,
    leftReached.agree_after rightReached agree⟩
  · exact operation.error_eq leftLegal rightLegal agree
  · exact operation.agree_perform leftLegal rightLegal agree
  · exact Operation.advisories_eq leftLegal rightLegal agree quiet
  · exact Property.answer_eq agree registered question

def addSecrets (text : String) : Operation :=
  .assign Settings.vpn.properties[3] (by decide +kernel) text

/-- Secrets that are there already do not show when more are added, nor when they are asked for. -/
theorem secrets_unseen_vpn :
    let left := ((addSecrets "pin = 12").perform .empty).profile
    let addition := addSecrets "password = open sesame"
    left.get? "vpn" "secrets" ≠ none ∧ left.AgreeOutsideSecrets .empty ∧
      (addition.perform left).error = (addition.perform .empty).error ∧
      (addition.perform left).profile.AgreeOutsideSecrets (addition.perform .empty).profile ∧
      (addition.perform left).profile ≠ (addition.perform .empty).profile ∧
      addition.property.answer left (.value .pretty) = addition.property.answer .empty (.value .pretty) := by
  intro left addition
  have agree : left.AgreeOutsideSecrets .empty := by
    intro setting key notSecret
    apply Operation.get?_perform
    rintro ⟨rfl, own⟩
    have only : (addSecrets "pin = 12").property.used = ["secrets", "secrets"] := by decide +kernel
    rw [only, List.mem_pair, or_self] at own
    subst own
    exact notSecret (by decide +kernel)
  obtain ⟨operations, questions, -⟩ := secrets_unseen (.step .empty (addSecrets "pin = 12")) .empty agree
  obtain ⟨error, after, -⟩ := operations addition
  exact ⟨by decide +kernel, agree, error, after, by decide +kernel, questions _ addition.registered _⟩

end Reachable

end NetProfile
