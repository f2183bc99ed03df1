import NetProfile.CommandLine.Printout

/-!
The command line as a function: from what is asked for, the configuration and the surroundings to
what is written and whether that is a success.
-/

namespace NetProfile.CommandLine

/-- What is written to the two outputs, and whether all went well. -/
structure Report where
  output : String := ""
  complaint : String := ""
  succeeds : Bool := true
deriving DecidableEq, Repr

namespace Report

def failing (lines : List String) : Report := { complaint := unlines lines, succeeds := false }

def exitCode (report : Report) : Nat := if report.succeeds then 0 else 1

end Report

def versionLines : List String :=
  ["nm-meta 1.4.0", "Copyright (C) 2026 Christos A. Daggas", "License: MIT"]

def helpLines : List String := [
  "Usage: nm-meta [OPTIONS] <COMMAND>",
  "",
  "Inspect the network connection property registry.",
  "",
  "Commands:",
  "  list [setting]                       List settings, or the properties of one",
  "  describe <setting>.<property>        Show the help text of a property",
  "  values <setting>.<property>          Show the legal values of a property",
  "  parts <type> [master-type]           Show the settings a connection may carry",
  "  check <setting>.<property> <text>    Apply text to a scratch connection",
  "",
  "Options:",
  "  -h, --help           Show this help message and exit",
  "  -v, --version        Show version information and exit",
  "  -d, --debug          Enable debug logging",
  "      --pretty         Render values in pretty mode",
  "      --show-secrets   Reveal secret values",
  "      --config <path>  Read configuration from <path>",
  "",
  "Environment variables:",
  "  RUST_LOG             Set log level (trace, debug, info, warn, error)"]

def hint : String := "Try '--help' for more information."

/-- The configuration with what the options ask for beyond it. -/
def Options.adjust (options : Options) (configuration : Configuration) : Configuration :=
  { configuration with
    output := if options.pretty then .pretty else configuration.output
    showSecrets := options.showSecrets || configuration.showSecrets }

/-- An error as it is told; a text that a property refuses is told with the property. -/
def errorLine (error : Error) : String :=
  match error.property? with
  | some property =>
    if error.cause.isParseError then
      "Error: failed to set '" ++ property ++ "' property: " ++ error.message
    else "Error: " ++ error.message
  | none => "Error: " ++ error.message

def Printout.report (printout : Printout) : Report :=
  match printout.error with
  | none => { output := printout.text }
  | some error =>
    { output := printout.text, complaint := unlines [errorLine error], succeeds := false }

/-- Runs the command of the options; the configuration must be in order even if there is none. -/
def Options.report (context : Context) (source : Configuration.Source) (options : Options) :
    Report :=
  match Configuration.load source with
  | .error error => .failing [error.message]
  | .ok configuration =>
    match Command.ofWords? options.words with
    | none => .failing ["Missing or unknown command.", hint]
    | some command => (command.printout context (options.adjust configuration)).report

def Request.report (context : Context) (source : Configuration.Source) : Request → Report
  | .help => { output := unlines helpLines }
  | .version => { output := unlines versionLines }
  | .missingPath => .failing ["Option '--config' requires a path."]
  | .unknownOption option => .failing ["Unknown option: " ++ option, hint]
  | .run options => options.report context source

end NetProfile.CommandLine
