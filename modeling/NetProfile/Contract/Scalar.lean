import NetProfile.Scalar.Flags
import NetProfile.Scalar.Octets
import NetProfile.TextRule
import NetProfile.Value.Description

/-!
Properties with a single value that a new text replaces: how the text is read, how the value is
shown and which words there are for it.
-/

namespace NetProfile

inductive Scalar where
  /-- A text that passes a rule, or one of some words, or any text. Where there is a rule the words
  are suggestions only. -/
  | text (rule : Option TextRule) (words : List String)
  | bool
  | integer (rule : IntegerRule)
  /-- A size of 32 bits; zero is written `auto`. -/
  | mtu
  | hardwareAddress (form : HardwareAddress)
  /-- Octets, in groups between blanks only where that is allowed. -/
  | octets (spaced : Bool)
  /-- An enumeration or flag set, shown through a table of its own if it has one. -/
  | enumeration (spec : Enumeration) (table : Option FlagTable)
  /-- An enumeration whose new value is held against the WEP keys of the same setting. -/
  | wepKeyType (spec : Enumeration)
  | ternary (style : Ternary)
  /-- Eight slots that have an effect only while the flags at the key `switch` include the first
  one. -/
  | slots (rule : SlotRule) (switch : String)
  | features
deriving DecidableEq, Repr

namespace Scalar

def free : Scalar := text none []

def choice (words : List String) : Scalar := text none words

def checked (rule : TextRule) : Scalar := text (some rule) []

/-- The value that a property has as long as none is stored. -/
def default : Scalar → Value
  | text .. | hardwareAddress _ => .text none
  | bool => .bool false
  | integer rule => .int rule.default
  | mtu | enumeration .. | wepKeyType _ | features => .int 0
  | octets _ => .octets none
  | ternary _ => .int Ternary.unset
  | slots .. => .slots Value.noSlots

/-- A blank text clears the value. Free texts keep their blanks, as passwords may have some. -/
def parseText (rule : Option TextRule) (words : List String) (text : String) :
    Except Error (Option String) :=
  let trimmed := Text.trim text
  if trimmed = "" then .ok none
  else match rule with
    | some rule => (rule.check trimmed).map some
    | none => if words = [] then .ok (some text) else (choose words trimmed).map some

def parseMtu (text : String) : Except Error Int64 :=
  let trimmed := Text.trim text
  if trimmed = "auto" then .ok 0 else readWithin (.fixed 10) 0 4294967295 trimmed

def parseHardwareAddress (form : HardwareAddress) (text : String) : Except Error (Option String) :=
  if Text.trim text = "" then .ok none else (form.parse text).map some

def parse : Scalar → String → Except Error Value
  | text rule words, input => (parseText rule words input).map .text
  | bool, input => (Truth.parse input).map .bool
  | integer rule, input => (rule.parse input).map .int
  | mtu, input => (parseMtu input).map .int
  | hardwareAddress form, input => (parseHardwareAddress form input).map .text
  | octets spaced, input => (Octets.parse spaced input).map .octets
  | enumeration spec _, input | wepKeyType spec, input => (spec.parse input).map .int
  | ternary style, input => (style.parse input).map .int
  | slots rule _, input => (rule.parse input).map .slots
  | features, input => (FeatureFlags.parse input).map fun flags => .int flags.toUInt64.toInt64

def flagBits (value : Int64) : UInt32 := value.toUInt64.toUInt32

/-- A text is shown as it is, whatever the property; any other value of a kind that the property has
no form for is written out with its structure. -/
def format (scalar : Scalar) (mode : Mode) (value : Value) : String :=
  match scalar, value with
  | bool, .bool b => Truth.format b
  | integer rule, .int n => rule.format mode n
  | mtu, .int n => if n = 0 then "auto" else Numeral.decimal n.toInt
  | octets _, .octets held => (held.map Octets.format).getD ""
  | enumeration _ (some table), .int n => table.format mode (flagBits n)
  | enumeration spec none, .int n | wepKeyType spec, .int n => spec.format mode n
  | ternary style, .int n => style.format n
  | slots rule _, .slots held => rule.format held
  | features, .int n => FeatureFlags.table.format mode (flagBits n)
  | _, .text held => held.getD ""
  | _, other => other.describe

/-- The words that a text may be, where there are finitely many. -/
def words : Scalar → List String
  | text _ words => words
  | bool => Truth.complete ""
  | integer rule => rule.names
  | hardwareAddress form => form.words
  | enumeration spec _ | wepKeyType spec => spec.allowed
  | ternary style => style.values
  | features => FeatureFlags.values
  | mtu => ["auto"]
  | octets _ | slots .. => []

/-- Suggestions for kinds whose vocabulary hangs on the text so far. -/
def complete? (scalar : Scalar) (text : String) : Option (List String) :=
  match scalar with
  | bool => some (Truth.complete text)
  | ternary style => some (style.complete text)
  | _ => none

end Scalar

end NetProfile
