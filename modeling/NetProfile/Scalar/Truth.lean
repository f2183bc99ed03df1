import NetProfile.Error
import NetProfile.Text.Blank
import NetProfile.Text.Case

/-!
Truth values, and ternary values that may also be left to a default. Ternary values are stored as
the numbers -1 (default), 0 (false) and 1 (true) and come in two vocabularies.
-/

namespace NetProfile

def isOneOf (words : List String) (token : String) : Bool :=
  words.any (Text.sameIgnoringCase · token)

namespace Truth

def trueWords : List String := ["true", "yes", "on", "1"]

def falseWords : List String := ["false", "no", "off", "0"]

def parse (text : String) : Except Error Bool :=
  let token := Text.trim text
  if isOneOf trueWords token then .ok true
  else if isOneOf falseWords token then .ok false
  else .error (.invalid text (.notTruth text trueWords falseWords))

def format (value : Bool) : String := if value then "yes" else "no"

/-- The short answer for an empty text, every word otherwise. -/
def complete (text : String) : List String :=
  if text = "" then ["yes", "no"]
  else ["true", "false", "on", "off", "1", "0", "yes", "no"]

theorem parse_format (value : Bool) : parse (format value) = .ok value := by
  cases value <;> decide

end Truth

inductive Ternary where
  | yesNo
  | onOff
deriving DecidableEq, Repr

namespace Ternary

def unset : Int64 := -1

def no : Int64 := 0

def yes : Int64 := 1

/-- Words of the first vocabulary are read in any case, those of the second as written. -/
def parse (style : Ternary) (text : String) : Except Error Int64 :=
  let token := Text.trim text
  match style with
  | yesNo =>
    if isOneOf ["yes", "true", "on", "1"] token then .ok yes
    else if isOneOf ["no", "false", "off", "0"] token then .ok no
    else if isOneOf ["unknown", "default", "-1"] token then .ok unset
    else .error (.invalid text (.notTernary token "yes" "no" "unknown"))
  | onOff =>
    if token ∈ ["1", "yes", "true", "on"] then .ok yes
    else if token ∈ ["0", "no", "false", "off"] then .ok no
    else if token ∈ ["", "ignore", "default"] then .ok unset
    else .error (.invalid text (.notTernary token "on" "off" "ignore"))

def format (style : Ternary) (value : Int64) : String :=
  match style with
  | yesNo => if value = yes then "yes" else if value = no then "no" else "unknown"
  | onOff => if value = yes then "on" else if value = no then "off" else ""

def values : Ternary → List String
  | yesNo => ["yes", "no", "unknown"]
  | onOff => ["on", "off", "ignore"]

def complete (style : Ternary) (text : String) : List String :=
  if style = onOff ∧ text ≠ "" then
    ["true", "false", "1", "0", "yes", "no", "default", "on", "off", "ignore"]
  else style.values

end Ternary

end NetProfile
