import NetProfile.Error
import NetProfile.Value

/-!
Profiles: settings by name, and in each setting values by key. A field that is not there has its
usual value. A setting may be there without any field.
-/

namespace NetProfile

structure Profile where
  settings : Dict (Dict Value) := .empty
deriving DecidableEq, Repr

namespace Profile

def empty : Profile := {}

instance : Inhabited Profile := ⟨empty⟩

def settingNames (profile : Profile) : List String := profile.settings.keys

/-- The fields of a setting; none if the setting is not there. -/
def fields (profile : Profile) (setting : String) : Dict Value :=
  (profile.settings.get? setting).getD .empty

def get? (profile : Profile) (setting key : String) : Option Value :=
  (profile.fields setting).get? key

def hasSetting (profile : Profile) (setting : String) : Bool := profile.settings.contains setting

def ensure (profile : Profile) (setting : String) : Profile :=
  if profile.hasSetting setting then profile
  else { settings := profile.settings.insert setting .empty }

/-- Whether the field is free or holds a value of the same kind. -/
def accepts (profile : Profile) (setting key : String) (value : Value) : Bool :=
  match profile.get? setting key with
  | some held => held.kind == value.kind
  | none => true

/-- Puts a value into a field, without a look at what the field held. -/
def put (profile : Profile) (setting key : String) (value : Value) : Profile :=
  { settings := profile.settings.insert setting ((profile.fields setting).insert key value) }

/-- Empties a field; its setting stays. -/
def reset (profile : Profile) (setting key : String) : Profile :=
  match profile.settings.get? setting with
  | some held => { settings := profile.settings.insert setting (held.erase key) }
  | none => profile

def drop (profile : Profile) (setting : String) : Profile :=
  { settings := profile.settings.erase setting }

def clearSecrets (profile : Profile) (isSecret : String → String → Bool) : Profile :=
  { settings := profile.settings.mapValues fun setting held =>
      held.filter fun key _ => !isSecret setting key }

def int? (profile : Profile) (setting key : String) : Option Int64 :=
  (profile.get? setting key).bind Value.int?

def text? (profile : Profile) (setting key : String) : Option String :=
  (profile.get? setting key).bind Value.text?

def list (profile : Profile) (setting key : String) : List Item :=
  ((profile.get? setting key).bind Value.list?).getD []

def map (profile : Profile) (setting key : String) : Dict String :=
  ((profile.get? setting key).bind Value.map?).getD .empty

def dnsOptions (profile : Profile) (setting key : String) : DnsOptions :=
  ((profile.get? setting key).bind Value.dnsOptions?).getD .unset

theorem get?_put (profile : Profile) (setting key other name : String) (value : Value) :
    (profile.put setting key value).get? other name =
      if other = setting ∧ name = key then some value else profile.get? other name := by
  simp only [get?, put, fields, Dict.get?_insert]
  by_cases here : other = setting
  · subst here
    by_cases same : name = key <;> simp [Dict.get?_insert, same]
  · simp [here]

theorem get?_reset (profile : Profile) (setting key other name : String) :
    (profile.reset setting key).get? other name =
      if other = setting ∧ name = key then none else profile.get? other name := by
  unfold reset
  split
  · next held found =>
    simp only [get?, fields, Dict.get?_insert]
    by_cases here : other = setting
    · subst here
      by_cases same : name = key <;> simp [Dict.get?_erase, same, found]
    · simp [here]
  · next absent =>
    by_cases here : other = setting
    · subst here; simp [get?, fields, absent, Dict.get?_empty]
    · simp [here]

theorem get?_ensure (profile : Profile) (setting other name : String) :
    (profile.ensure setting).get? other name = profile.get? other name := by
  unfold ensure
  split
  · rfl
  · next absent =>
    simp only [get?, fields, Dict.get?_insert]
    by_cases here : other = setting
    · subst here
      have gone : profile.settings.get? other = none := by
        simpa [hasSetting, Dict.contains] using absent
      simp [gone]
    · simp [here]

theorem get?_clearSecrets (profile : Profile) (isSecret : String → String → Bool)
    (setting key : String) :
    (profile.clearSecrets isSecret).get? setting key =
      (profile.get? setting key).filter fun _ => !isSecret setting key := by
  simp only [get?, fields, clearSecrets, Dict.get?_mapValues]
  cases profile.settings.get? setting with
  | none => simp [Dict.get?_empty]
  | some held => simp [Dict.get?_filter]

end Profile

end NetProfile
