import NetProfile.Json.Printer
import NetProfile.Json.Reader
import NetProfile.Profile
import NetProfile.Value.Json

/-!
Profiles as JSON texts.
-/

namespace NetProfile.Profile

def toJson (profile : Profile) : Json :=
  .object [("settings", .ofDict (.ofDict Value.toJson) profile.settings)]

def ofJson? (json : Json) : Option Profile :=
  match json.record? ["settings"] with
  | some [some settings] => do
    return ⟨← settings.dict? (Json.dict? (Value.ofJson? false))⟩
  | _ => none

def toText (profile : Profile) : String := profile.toJson.toLines

def parse (text : String) : Except Error Profile :=
  match (Json.parse? text).bind ofJson? with
  | some profile => .ok profile
  | none => .error (.malformed "not a profile")

/-- The profile of a file with a content, or of a file that is not there. -/
def load (content : Option String) : Except Error Profile :=
  match content with
  | some text => parse text
  | none => .error { cause := .unreadable "No such file or directory (os error 2)" }

end NetProfile.Profile
