import NetProfile.Error
import NetProfile.Mode
import NetProfile.Scalar.Integer

/-!
Enumerations and flag sets. Both are stored as numbers. A text gives a value by its name or its
number; the text of a flag set may give several, whose bits are joined.
-/

namespace NetProfile

structure Showing where
  numeric : Bool
  hex : Bool
  text : Bool
deriving DecidableEq, Repr

namespace Showing

def numericOnly : Showing := ⟨true, false, false⟩

def textOnly : Showing := ⟨false, false, true⟩

def numericText : Showing := ⟨true, false, true⟩

def hexText : Showing := ⟨true, true, true⟩

def hexOnly : Showing := ⟨true, true, false⟩

end Showing

structure Enumeration where
  isFlags : Bool
  names : List (String × Int64)
  /-- Further names, for reading only. -/
  aliases : List (String × Int64) := []
  least : Option Int64 := none
  greatest : Option Int64 := none
  pretty : Showing := .numericText
  parsable : Showing := .numericOnly
deriving DecidableEq, Repr

/-- The characters between the parts of a flag set. -/
def isFlagSeparator (c : Char) : Bool := c == ',' || c == '|' || c == ' ' || c == '\t'

namespace Enumeration

/-- The range that is given, if both its ends are; otherwise that of a word of 32 bits. -/
def bounds (spec : Enumeration) : Int64 × Int64 :=
  match spec.least, spec.greatest with
  | some least, some greatest => (least, greatest)
  | _, _ => if spec.isFlags then (0, 4294967295) else (-2147483648, 2147483647)

def allowed (spec : Enumeration) : List String :=
  (spec.names.filter fun (_, v) => spec.bounds.1 ≤ v && v ≤ spec.bounds.2).map (·.1)

def lookup (spec : Enumeration) (token : String) : Option Int64 :=
  ((spec.names ++ spec.aliases).find? (·.1 = token)).map (·.2)

def parseToken (spec : Enumeration) (token : String) : Option Int64 :=
  match spec.lookup token with
  | some value => some value
  | none => (readWithin .automatic spec.bounds.1 spec.bounds.2 token).toOption

def reject (spec : Enumeration) (text : String) : Error :=
  .invalid text (if spec.isFlags then .notCombination text spec.allowed
    else .notOneOf text spec.allowed)

/-- Joins the bits of all tokens to those of `bits`. -/
def joinTokens (spec : Enumeration) (bits : Int64) : List String → Option Int64
  | [] => some bits
  | token :: tokens =>
    match spec.parseToken token with
    | some value => joinTokens spec (bits ||| value) tokens
    | none => none

def parseBits (spec : Enumeration) (text : String) : Option Int64 :=
  if spec.isFlags then spec.joinTokens 0 (Text.items isFlagSeparator text)
  else spec.parseToken text

/-- The range is asked of the whole value, so joined names may leave it. -/
def parse (spec : Enumeration) (text : String) : Except Error Int64 :=
  let text := Text.trim text
  match spec.parseBits text with
  | some value =>
    if spec.bounds.1 ≤ value ∧ value ≤ spec.bounds.2 then .ok value else .error (spec.reject text)
  | none => .error (spec.reject text)

/-- The names that `value` covers, each taken if some of its bits are still left in `rest`, and the
bits that no name takes. -/
def peel (value : Int64) : Int64 → List (String × Int64) → List String × Int64
  | rest, [] => ([], rest)
  | rest, (name, bits) :: names =>
    if bits ≠ 0 ∧ value &&& bits = bits ∧ rest &&& bits ≠ 0 then
      let (taken, left) := peel value (rest &&& ~~~bits) names
      (name :: taken, left)
    else peel value rest names

def flagsText (spec : Enumeration) (value : Int64) : String :=
  if value = 0 then
    match spec.names.find? (·.2 = 0) with
    | some (name, _) => name
    | none => "none"
  else
    let (names, left) := peel value value spec.names
    String.intercalate ", " (if left = 0 then names else names ++ [Numeral.hexWord left])

def toText (spec : Enumeration) (value : Int64) : String :=
  if spec.isFlags then spec.flagsText value
  else match spec.names.find? (·.2 = value) with
    | some (name, _) => name
    | none => Numeral.decimal value.toInt

def showing (spec : Enumeration) : Mode → Showing
  | .pretty => spec.pretty
  | .parsable => spec.parsable

def format (spec : Enumeration) (mode : Mode) (value : Int64) : String :=
  let parts := spec.showing mode
  let number := if parts.hex then Numeral.hexWord value else Numeral.decimal value.toInt
  let text := spec.toText value
  if !parts.text then number
  else if !parts.numeric || text = number then text
  else number ++ " (" ++ text ++ ")"

end Enumeration

end NetProfile
