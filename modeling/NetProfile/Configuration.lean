import NetProfile.Error
import NetProfile.Mode
import NetProfile.Toml.Quoted
import NetProfile.Toml.Reader

/-!
How the command line is set up: a TOML document with three entries, each of which may be left out.
Entries with other names mean nothing.
-/

namespace NetProfile

structure Configuration where
  /-- How values are shown. -/
  output : Mode := .parsable
  showSecrets : Bool := false
  logLevel : String := "warn"
deriving DecidableEq, Repr

namespace Configuration

def isEmptyPart : Toml → Bool
  | .array items => items.isEmpty
  | .table _ entries => entries.isEmpty
  | _ => false

/-- A mode is written as its name, or as a table with one entry, which has that name and holds
nothing. -/
def mode? : Toml → Option Mode
  | .text name => Mode.ofName? name
  | .table _ [(name, value)] => if isEmptyPart value then Mode.ofName? name else none
  | _ => none

def truth? : Toml → Option Bool
  | .bool value => some value
  | _ => none

def text? : Toml → Option String
  | .text value => some value
  | _ => none

/-- The value of an entry as `read` finds it, or `otherwise` if there is no such entry. -/
def entryOr {α : Type} (read : Toml → Option α) (otherwise : α) (entries : Toml.Entries)
    (name : String) : Option α :=
  match entries.get? name with
  | some value => read value
  | none => some otherwise

def ofEntries? (entries : Toml.Entries) : Option Configuration := do
  let usual : Configuration := {}
  return {
    output := ← entryOr mode? usual.output entries "output"
    showSecrets := ← entryOr truth? usual.showSecrets entries "show_secrets"
    logLevel := ← entryOr text? usual.logLevel entries "log_level" }

def parse (document : String) : Except Error Configuration :=
  match (Toml.parse? document).bind ofEntries? with
  | some configuration => .ok configuration
  | none => .error (.malformed "not a configuration")

def toText (configuration : Configuration) : String :=
  "output = " ++ Toml.quoted configuration.output.name ++ "\n"
    ++ "show_secrets = " ++ (if configuration.showSecrets then "true" else "false") ++ "\n"
    ++ "log_level = " ++ Toml.quoted configuration.logLevel ++ "\n"

inductive Source where
  | missing
  | file (content : String)
  | unreadable (path reason : String)
deriving DecidableEq, Repr

/-- The configuration of a file. Where there is no file, all is as usual. -/
def load : Source → Except Error Configuration
  | .missing => .ok {}
  | .file content => parse content
  | .unreadable path reason => .error { cause := .unreadable (path ++ ": " ++ reason) }

end Configuration

end NetProfile
