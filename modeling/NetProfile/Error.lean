import NetProfile.Fault

/-!
Errors. An error has a cause and, when it is known, the property that it concerns: readers of texts
do not know which property they serve, so its name is added afterwards by `Error.withProperty`.
-/

namespace NetProfile

-- The libraries have an instance too, but not all modules see it.
instance (priority := high) decidableEqExcept {ε α : Type} [DecidableEq ε] [DecidableEq α] :
    DecidableEq (Except ε α)
  | .ok a, .ok b => if same : a = b then isTrue (by rw [same]) else isFalse (by simpa using same)
  | .error a, .error b =>
    if same : a = b then isTrue (by rw [same]) else isFalse (by simpa using same)
  | .ok _, .error _ => isFalse (by simp)
  | .error _, .ok _ => isFalse (by simp)

inductive Cause where
  /-- A text that its reader refuses; `text` is the offending part. -/
  | invalid (text : String) (fault : Fault)
  | outOfRange (text : String) (low high : Int)
  | notANumber (text : String)
  /-- A token that is legal only elsewhere, or that has several meanings. -/
  | ambiguous (token : String) (fault : Fault)
  | incomplete (missing context : String)
  /-- The state of the profile or the property forbids the change. -/
  | immutable (fault : Fault)
  /-- The profile cannot hold the value. -/
  | refused (fault : Fault)
  | unknownSetting (name : String)
  | unknownProperty (setting property : String)
  | unreadable (detail : String)
  | unwritable (detail : String)
  | malformed (detail : String)
  /-- A sum leaves its word, and the run breaks off. -/
  | overflow
deriving DecidableEq, Repr

namespace Cause

def isLocal : Cause → Bool
  | invalid .. | outOfRange .. | notANumber .. | ambiguous .. | incomplete .. | immutable ..
  | refused .. => true
  | _ => false

def isParseError : Cause → Bool
  | invalid .. | outOfRange .. | notANumber .. | ambiguous .. | incomplete .. | refused .. => true
  | _ => false

def text? : Cause → Option String
  | invalid text _ | outOfRange text _ _ | notANumber text | ambiguous text _ => some text
  | _ => none

end Cause

structure Error where
  cause : Cause
  /-- The property that the error was attached to. -/
  owner : Option String := none
deriving DecidableEq, Repr

namespace Error

def invalid (text : String) (fault : Fault) : Error := { cause := .invalid text fault }

def outOfRange (text : String) (low high : Int) : Error := { cause := .outOfRange text low high }

def notANumber (text : String) : Error := { cause := .notANumber text }

def ambiguous (token : String) (fault : Fault) : Error := { cause := .ambiguous token fault }

def incomplete (missing context : String) : Error := { cause := .incomplete missing context }

def malformed (detail : String) : Error := { cause := .malformed detail }

def overflow : Error := { cause := .overflow }

def property? (error : Error) : Option String :=
  match error.cause with
  | .unknownProperty _ property => some property
  | _ => error.owner

def message (error : Error) : String :=
  match error.cause with
  | .invalid _ fault | .ambiguous _ fault | .immutable fault => fault.message
  | .outOfRange text low high =>
    s!"'{text}' is out of range [{Numeral.decimal low}, {Numeral.decimal high}]"
  | .notANumber text => s!"'{text}' is not a valid number"
  | .incomplete missing context => s!"missing {missing} in {context}"
  | .refused fault => "Store rejected " ++ error.owner.getD "" ++ ": " ++ fault.message
  | .unknownSetting name => s!"Unknown setting: {name}"
  | .unknownProperty setting property => s!"Unknown property '{property}' in setting '{setting}'"
  | .unreadable detail => s!"Failed to read configuration: {detail}"
  | .unwritable detail => s!"Failed to write configuration: {detail}"
  | .malformed detail => s!"Failed to parse configuration: {detail}"
  | .overflow => "attempt to add with overflow"

/-- Attaches the error to a property, unless it is attached already or concerns none. -/
def withProperty (name : String) (error : Error) : Error :=
  if error.cause.isLocal && error.owner.isNone && name ≠ "" then { error with owner := some name }
  else error

/-- The error of a part, told as an error of the whole: `place` says where the part stands. -/
def prefixed (place : String) (error : Error) : Error :=
  match error.cause with
  | .invalid text fault => { error with cause := .invalid text (.within place fault) }
  | .ambiguous token fault => { error with cause := .ambiguous token (.within place fault) }
  | _ =>
    { cause := .invalid "" (.stated (place ++ error.message))
      owner := error.property?.filter (· ≠ "") }

theorem withProperty_withProperty (name other : String) (error : Error) (named : name ≠ "") :
    (error.withProperty name).withProperty other =
      if error.cause.isLocal then error.withProperty name else error := by
  obtain ⟨cause, owner⟩ := error
  cases h : cause.isLocal <;> cases owner <;> simp [withProperty, h, named]

end Error

end NetProfile
