import NetProfile.Error
import NetProfile.Mode
import NetProfile.Numeral

/-!
Integer values with bounds, a written base and names for single numbers.
-/

namespace NetProfile

/-- The integer of `text`, which has to lie in the closed interval from `low` to `high`. A number too
large for a wide word is out of every range. -/
def readWithin (base : Numeral.Base) (low high : Int64) (text : String) : Except Error Int64 :=
  let (negative, body) := Numeral.splitSign (Text.trimChars text.toList)
  let (radix, digits) := base.split body
  if digits = [] ∨ digits.all (Numeral.isDigitOf radix) = false then .error (.notANumber text)
  else match Numeral.gatherFrom radix 0 digits with
    | none => .error (.outOfRange text low.toInt high.toInt)
    | some magnitude =>
      let n := Numeral.withSign negative magnitude
      if low.toInt ≤ n ∧ n ≤ high.toInt then .ok (Int64.ofInt n)
      else .error (.outOfRange text low.toInt high.toInt)

inductive Width where
  | int32
  | uint32
  | int64
  | uint64
deriving DecidableEq, Repr

/-- The numbers of the width that a signed word of 64 bits can hold. -/
def Width.bounds : Width → Int64 × Int64
  | int32 => (-2147483648, 2147483647)
  | uint32 => (0, 4294967295)
  | int64 => (Int64.minValue, Int64.maxValue)
  | uint64 => (0, Int64.maxValue)

structure IntegerRule where
  width : Width
  base : Numeral.Base := .fixed 10
  least : Option Int64 := none
  greatest : Option Int64 := none
  /-- Names that stand for single numbers. -/
  aliases : List (String × Int64) := []
deriving DecidableEq, Repr

namespace IntegerRule

def bounds (rule : IntegerRule) : Int64 × Int64 :=
  (rule.least.getD rule.width.bounds.1, rule.greatest.getD rule.width.bounds.2)

/-- A name is looked up before the text is read as a number. -/
def parse (rule : IntegerRule) (text : String) : Except Error Int64 :=
  let token := Text.trim text
  match rule.aliases.find? (·.1 = token) with
  | some (_, value) => .ok value
  | none => readWithin rule.base rule.bounds.1 rule.bounds.2 token

def number (rule : IntegerRule) (value : Int64) : String :=
  if rule.base = .hexadecimal then Numeral.hexWord value else Numeral.decimal value.toInt

/-- For people a number is followed by its first name. -/
def format (rule : IntegerRule) (mode : Mode) (value : Int64) : String :=
  match mode, rule.aliases.find? (·.2 = value) with
  | .pretty, some (name, _) => rule.number value ++ " (" ++ name ++ ")"
  | _, _ => rule.number value

def names (rule : IntegerRule) : List String := rule.aliases.map (·.1)

/-- Zero, or the bound that is nearest to it. -/
def default (rule : IntegerRule) : Int64 :=
  if 0 < rule.bounds.1 then rule.bounds.1 else if rule.bounds.2 < 0 then rule.bounds.2 else 0

end IntegerRule

theorem readWithin_mem {base : Numeral.Base} {low high value : Int64} {text : String}
    (read : readWithin base low high text = .ok value) : low ≤ value ∧ value ≤ high := by
  unfold readWithin at read
  simp only at read
  split at read
  · cases read
  · split at read
    · cases read
    · next magnitude _ =>
      split at read
      · next inside =>
        cases read
        have lowest := low.le_toInt
        have highest := high.toInt_lt
        have same := Int64.toInt_ofInt_of_le (Int.le_trans lowest inside.1) (Int.lt_of_le_of_lt inside.2 highest)
        rw [Int64.le_iff_toInt_le, Int64.le_iff_toInt_le, same]
        exact inside
      · cases read

end NetProfile
