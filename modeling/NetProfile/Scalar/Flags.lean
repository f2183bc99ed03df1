import NetProfile.Scalar.Enumeration
import NetProfile.Scalar.Truth

/-!
Flag sets with a pretty form of their own, such as `3 (enabled, advertise)`, and the flags of data
center bridging features.
-/

namespace NetProfile

/-- Labels of single bits, and the label of the empty set. -/
structure FlagTable where
  zero : String
  labels : List (UInt32 × String)
deriving DecidableEq, Repr

namespace FlagTable

def describe (table : FlagTable) (flags : UInt32) : String :=
  if flags = 0 then table.zero
  else match (table.labels.filter fun (bit, _) => flags &&& bit ≠ 0).map (·.2) with
    | [] => "unknown"
    | labels => String.intercalate ", " labels

def format (table : FlagTable) (mode : Mode) (flags : UInt32) : String :=
  let number := Numeral.decimalDigits flags.toNat
  match mode with
  | .parsable => number
  | .pretty => number ++ " (" ++ table.describe flags ++ ")"

end FlagTable

def secretFlags : Enumeration where
  isFlags := true
  names := [("none", 0), ("agent-owned", 1), ("not-saved", 2), ("not-required", 4)]
  least := some 0
  greatest := some 7

def secretFlagTable : FlagTable where
  zero := "none"
  labels := [(1, "agent-owned"), (2, "not saved"), (4, "not required")]

def vlanFlags : Enumeration where
  isFlags := true
  names := [("reorder-headers", 1), ("gvrp", 2), ("loose-binding", 4), ("mvrp", 8)]
  least := some 0
  greatest := some 15

def vlanFlagTable : FlagTable where
  zero := "NONE"
  labels := [(1, "REORDER_HEADERS"), (2, "GVRP"), (4, "LOOSE_BINDING"), (8, "MVRP")]

/-! The switches of a data center bridging feature. -/

namespace FeatureFlags

def enabled : UInt32 := 1

def advertise : UInt32 := 2

def willing : UInt32 := 4

def table : FlagTable where
  zero := "disabled"
  labels := [(enabled, "enabled"), (advertise, "advertise"), (willing, "willing")]

def values : List String := ["enable", "advertise", "willing", "disable"]

def wholeNumber? (text : String) : Option UInt32 :=
  (Numeral.natural? .automatic 7 text).map UInt32.ofNat

/-- The bits of one word, or of the number of a single bit. -/
def tokenBits (token : String) : Option UInt32 :=
  let number := wholeNumber? token
  if isOneOf ["enable", "enabled"] token || number == some enabled then some enabled
  else if isOneOf ["advertise"] token || number == some advertise then some advertise
  else if isOneOf ["willing"] token || number == some willing then some willing
  else if isOneOf ["disable", "disabled"] token || number == some 0 then some 0
  else none

def joinTokens (flags : UInt32) : List String → Except Error UInt32
  | [] => .ok flags
  | token :: tokens =>
    match tokenBits token with
    | some bits => joinTokens (flags ||| bits) tokens
    | none => .error (.invalid token (.notFeature token))

/-- A number for all flags, or the joined bits of several words. -/
def parse (text : String) : Except Error UInt32 :=
  let text := Text.trim text
  match wholeNumber? text with
  | some flags => .ok flags
  | none => joinTokens 0 (Text.items Text.isListSeparator text)

end FeatureFlags

end NetProfile
