import NetProfile.Edit.Context
import NetProfile.Profile

/-!
Looking at properties: their values in a profile, the words there are for them, suggestions and
help.
-/

namespace NetProfile

structure Rendered where
  text : String
  /-- Whether the value is the usual one. A hidden value passes for it. -/
  isDefault : Bool
deriving DecidableEq, Repr

def hiddenText : String := "<hidden>"

namespace Property

/-- The stored value, or the default while there is none. -/
def value (property : Property) (profile : Profile) : Value :=
  (profile.get? property.setting property.name).getD property.default

def isDefault (property : Property) (profile : Profile) : Bool :=
  property.contract.isDefault (property.value profile) property.default

/-- The value as a text. Secrets are shown only if they are revealed. -/
def render (property : Property) (profile : Profile) (mode : Mode) (reveal : Bool) : Rendered :=
  if property.isSecret && !reveal then ⟨hiddenText, true⟩
  else
    ⟨property.contract.format mode (property.value profile), property.isDefault profile⟩

/-- The words for a value, where there are finitely many. -/
def words (context : Context) (property : Property) : List String :=
  if property.namesDevices then context.devices
  else match property.contract with
    | .scalar scalar => scalar.words
    | .list list => list.words
    | .options spec => spec.keys.getD []
    | .special .connectionType => context.catalogue.typeNames
    | .special .dnsOptions => DnsOptions.names
    | .special .partitionKey => ["default"]
    | .special _ => []

def startingWith (text : String) (words : List String) : List String :=
  words.filter (Text.startsWith · text)

/-- Identifiers and interfaces of possible masters. Before anything is typed only the interfaces are
named, of profiles of the type that the profile expects of its master. -/
def masters (context : Context) (profile : Option Profile) (text : String) : List String :=
  let expected := if text = "" then profile.bind (·.text? "connection" "slave-type") else none
  (context.profiles.filter fun known => expected.all (· = known.type)).flatMap fun known =>
    startingWith text ((if text = "" then [] else [known.uuid]) ++ known.interface.toList)

def complete (context : Context) (property : Property) (profile : Option Profile)
    (text : String) : List String :=
  match property.completer, property.contract with
  | some .connectionType, _ => startingWith text context.catalogue.typeNames
  | some .master, _ => masters context profile text
  | some .device, _ => startingWith text context.devices
  | none, .scalar scalar =>
    (scalar.complete? text).getD (startingWith text (property.words context))
  | none, _ => startingWith text (property.words context)

def describe (property : Property) : String :=
  "=== [" ++ property.name ++ "] ===\n"
    ++ (if property.doc = "" then "" else "[" ++ property.name ++ "] " ++ property.doc ++ "\n")
    ++ (property.message.map (· ++ "\n")).getD ""

end Property

end NetProfile
