import NetProfile.CommandLine.Arguments
import NetProfile.Configuration
import NetProfile.Edit
import NetProfile.Property.View

/-!
What commands print: settings and properties with a word on each, the help of a property, the words
for it, the parts of a type, and what becomes of a text that a new profile is to hold.
-/

namespace NetProfile.CommandLine

def unlines (lines : List String) : String := String.join (lines.map (· ++ "\n"))

/-- What a command prints, and the error in which it ends. -/
structure Printout where
  text : String := ""
  error : Option Error := none
deriving DecidableEq, Repr

def Printout.ofLines (lines : List String) : Printout := { text := unlines lines }

def Printout.ofResult : Except Error Printout → Printout
  | .ok printout => printout
  | .error error => { error := some error }

def settingLine (setting : Setting) : String :=
  (if setting.isType then "* " else "  ") ++ setting.name
    ++ (setting.shortName.map fun name => " (" ++ name ++ ")").getD ""
    ++ " - " ++ setting.title

/-- What is to be noted of a property, in brackets. -/
def notes (property : Property) : String :=
  let all := (property.option.map fun option => "alias " ++ option).toList
    ++ (if property.isSecret then ["secret"] else [])
    ++ (if property.isReadOnly then ["read-only"] else [])
  if all.isEmpty then "" else " [" ++ ", ".intercalate all ++ "]"

/-- A property with its default, which is shown as the configuration says. -/
def propertyLine (configuration : Configuration) (property : Property) : String :=
  property.fullName ++ " (" ++ property.contract.label ++ ")" ++ notes property ++ " = '"
    ++ (property.render .empty configuration.output configuration.showSecrets).text ++ "'"

def wordLines (words : List String) : List String :=
  if words.isEmpty then ["(free-form)"] else words

def partLine (part : Part) : String :=
  part.setting ++ (if part.isMandatory then " (mandatory)" else " (optional)")

def advisoryLine (advisory : Advisory) : String :=
  (match advisory.level with
    | .info => "info: "
    | .warning => "warning: ") ++ advisory.message

/-- The value that a property has in a profile, in both modes. -/
def valueLines (configuration : Configuration) (property : Property) (profile : Profile) :
    List String :=
  let parsable := property.render profile .parsable configuration.showSecrets
  let pretty := property.render profile .pretty configuration.showSecrets
  ["parsable: " ++ parsable.text, "pretty:   " ++ pretty.text]
    ++ (if parsable.isDefault then ["(default value)"] else [])

/-- Sets a property of a new profile. Advisories are printed even if that fails. -/
def trial (context : Context) (configuration : Configuration) (property : Property)
    (text : String) : Printout :=
  let outcome := property.set { context with devices := [], profiles := [] } .empty (.text text)
  let said := outcome.advisories.map advisoryLine
  match outcome.error with
  | some error => { text := unlines said, error := some error }
  | none => .ofLines (said ++ valueLines configuration property outcome.profile)

def Command.printout (context : Context) (configuration : Configuration) : Command → Printout
  | .settings => .ofLines (context.catalogue.settings.map settingLine)
  | .properties setting => .ofResult do
    let found ← context.catalogue.setting setting
    return .ofLines (found.properties.map (propertyLine configuration))
  | .describe property => .ofResult do
    return { text := (← context.catalogue.lookup property).describe }
  | .words property => .ofResult do
    return .ofLines (wordLines ((← context.catalogue.lookup property).words context))
  | .parts type master => .ofResult do
    return .ofLines ((← context.catalogue.companions type master).map partLine)
  | .check property text => .ofResult do
    return trial context configuration (← context.catalogue.lookup property) text

end NetProfile.CommandLine
