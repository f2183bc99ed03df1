import NetProfile.Property

/-!
The catalogue of settings. Some settings are types of profiles; such a setting has parts, which are
the settings that go with it.
-/

namespace NetProfile

structure Part where
  setting : String
  isMandatory : Bool
deriving DecidableEq, Repr

def Part.mandatory (setting : String) : Part := ⟨setting, true⟩

def Part.optional (setting : String) : Part := ⟨setting, false⟩

structure Setting where
  name : String
  /-- A short name, which is as good as the full one. -/
  shortName : Option String := none
  title : String
  properties : List Property := []
  /-- The parts of a profile of this type; none if the setting is no type. -/
  parts : List Part := []
deriving DecidableEq, Repr

namespace Setting

def binding (setting : Setting) (properties : List Property) : Setting :=
  { setting with
    properties := properties.map fun property => { property with setting := setting.name } }

def isCalled (setting : Setting) (name : String) : Bool :=
  setting.name = name || setting.shortName = some name

def isType (setting : Setting) : Bool := !setting.parts.isEmpty

def property (setting : Setting) (name : String) : Except Error Property :=
  match setting.properties.find? (·.name = name) with
  | some property => .ok property
  | none => .error { cause := .unknownProperty setting.name name }

def mandatoryParts (setting : Setting) : List String :=
  (setting.parts.filter Part.isMandatory).map Part.setting

end Setting

structure Catalogue where
  settings : List Setting
deriving DecidableEq, Repr

namespace Catalogue

def setting (catalogue : Catalogue) (name : String) : Except Error Setting :=
  match catalogue.settings.find? (·.isCalled name) with
  | some setting => .ok setting
  | none => .error { cause := .unknownSetting name }

def property (catalogue : Catalogue) (setting name : String) : Except Error Property := do
  (← catalogue.setting setting).property name

/-- The property with a full name, which goes on after the first dot. -/
def lookup (catalogue : Catalogue) (fullName : String) : Except Error Property :=
  match Text.cutOnce '.' fullName with
  | some (setting, name) => catalogue.property setting name
  | none => .error { cause := .unknownSetting fullName }

def properties (catalogue : Catalogue) : List Property :=
  catalogue.settings.flatMap Setting.properties

def types (catalogue : Catalogue) : List Setting := catalogue.settings.filter Setting.isType

/-- The names of all types, each after its short name. -/
def typeNames (catalogue : Catalogue) : List String :=
  catalogue.types.flatMap fun setting => setting.shortName.toList ++ [setting.name]

/-- The properties that a new profile takes as options. -/
def options (catalogue : Catalogue) : List Property :=
  catalogue.properties.filter (·.option.isSome)

/-- Names that the catalogue does not know are no secrets. -/
def isSecret (catalogue : Catalogue) (setting name : String) : Bool :=
  match catalogue.property setting name with
  | .ok property => property.isSecret
  | .error _ => false

end Catalogue

/-- The parts of a profile whose type is not known. -/
def defaultParts : List Part := [.mandatory "connection"]

/-- The parts that go with a master of a type; without a master the profile has parts of its own. -/
def partsUnder : Option String → Except Error (List Part)
  | none =>
    .ok [.optional "match", .optional "ipv4", .optional "ipv6", .optional "tc", .optional "proxy"]
  | some "bond" => .ok []
  | some "bridge" => .ok [.mandatory "bridge-port"]
  | some "ovs-bridge" => .ok [.optional "ovs-port"]
  | some "ovs-port" => .ok [.optional "ovs-interface"]
  | some "team" => .ok [.mandatory "team-port"]
  | some other => .error (.invalid other (.notMasterType other))

/-- All parts of a profile of a type, which may have a master of another type. -/
def Catalogue.companions (catalogue : Catalogue) (type : String) (master : Option String) :
    Except Error (List Part) := do
  let setting ← catalogue.setting type
  if !setting.isType then .error (.invalid type (.notConnectionType type))
  else
    let master ← match master with
      | some name => (catalogue.setting name).map fun found => some found.name
      | none => .ok none
    return setting.parts ++ (← partsUnder master)

end NetProfile
