import NetProfile.CommandLine
import NetProfile.Inventory
import NetProfile.Settings.Standard

/-!
The program: reads what the command line needs from the machine, and writes the report.
-/

namespace NetProfile.Program

/-- Why a file could not be read, as the system puts it. -/
def reasonOf : IO.Error → String
  | .inappropriateType _ code reason | .permissionDenied _ code reason
  | .resourceExhausted _ code reason | .invalidArgument _ code reason
  | .noFileOrDirectory _ code reason =>
    reason ++ " (os error " ++ Numeral.decimalDigits code.toNat ++ ")"
  | .userError _ => "stream did not contain valid UTF-8"
  | other => other.toString

def sourceAt (path : String) : IO Configuration.Source := do
  match ← (IO.FS.readFile path).toBaseIO with
  | .ok content => return .file content
  | .error (.noFileOrDirectory ..) => return .missing
  | .error error => return .unreadable path (reasonOf error)

/-- The file of the configuration, in the directory that the environment names for such files. -/
def usualPath : IO (Option String) := do
  match ← IO.getEnv "XDG_CONFIG_HOME", ← IO.getEnv "HOME" with
  | some directory, home =>
    if Text.startsWith directory "/" then return some (directory ++ "/nm-meta/config.toml")
    else return home.map (· ++ "/.config/nm-meta/config.toml")
  | none, home => return home.map (· ++ "/.config/nm-meta/config.toml")

def sourceOf (options : CommandLine.Options) : IO Configuration.Source := do
  match options.configuration, ← usualPath with
  | some path, _ | none, some path => sourceAt path
  | none, none => return .missing

/-- The names in the directory of the network devices; none if it cannot be read. -/
def deviceEntries : IO (List String) := do
  let directory := (← IO.currentDir) / "/sys/class/net"
  match ← directory.readDir.toBaseIO with
  | .ok entries => return entries.toList.map (·.fileName)
  | .error _ => return []

def freshUuid : IO Uuid := do
  let bytes ← IO.getRandomBytes 16
  return .random (bytes.toList.foldl (fun bits byte => bits <<< 8 ||| byte.toBitVec.setWidth 128) 0)

def context : IO Context := do
  return {
    catalogue := .standard
    devices := listDevices (← deviceEntries)
    freshUuid := ← freshUuid }

def reportOf (request : CommandLine.Request) : IO CommandLine.Report := do
  match request with
  | .run options => return request.report (← context) (← sourceOf options)
  | _ => return request.report { catalogue := .standard, freshUuid := .random 0 } .missing

end NetProfile.Program

def main (arguments : List String) : IO UInt32 := do
  let report ← NetProfile.Program.reportOf (.ofArguments arguments)
  (← IO.getStdout).putStr report.output
  (← IO.getStderr).putStr report.complaint
  return report.exitCode.toUInt32
