import NetProfile.Text.Fields

/-!
What the arguments of the command line ask for. Options may stand before and behind the command; the
first argument that ends the matter decides, whatever comes after it.
-/

namespace NetProfile.CommandLine

structure Options where
  pretty : Bool := false
  showSecrets : Bool := false
  /-- The file of the configuration, if it is not the usual one. -/
  configuration : Option String := none
  /-- The command and what belongs to it. -/
  words : List String := []
deriving DecidableEq, Repr

inductive Request where
  | help
  | version
  /-- The option for the configuration is the last argument. -/
  | missingPath
  /-- An option that there is not, before any command. -/
  | unknownOption (option : String)
  | run (options : Options)
deriving DecidableEq, Repr

/-- Goes on with options found so far. Behind a command an unknown option is one of its words. The
log, for which there is an option, is kept elsewhere. -/
def Request.read (options : Options) : List String → Request
  | [] => .run options
  | "-h" :: _ | "--help" :: _ => .help
  | "-v" :: _ | "--version" :: _ => .version
  | "-d" :: rest | "--debug" :: rest => read options rest
  | "--pretty" :: rest => read { options with pretty := true } rest
  | "--show-secrets" :: rest => read { options with showSecrets := true } rest
  | "--config" :: path :: rest => read { options with configuration := some path } rest
  | ["--config"] => .missingPath
  | word :: rest =>
    if Text.startsWith word "-" && options.words.isEmpty then .unknownOption word
    else read { options with words := options.words ++ [word] } rest

def Request.ofArguments (arguments : List String) : Request := Request.read {} arguments

inductive Command where
  | settings
  | properties (setting : String)
  | describe (property : String)
  | words (property : String)
  | parts (type : String) (master : Option String)
  | check (property text : String)
deriving DecidableEq, Repr

def Command.ofWords? : List String → Option Command
  | ["list"] => some .settings
  | ["list", setting] => some (.properties setting)
  | ["describe", property] => some (.describe property)
  | ["values", property] => some (.words property)
  | ["parts", type] => some (.parts type none)
  | ["parts", type, master] => some (.parts type (some master))
  | ["check", property, text] => some (.check property text)
  | _ => none

end NetProfile.CommandLine
