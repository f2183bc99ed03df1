import NetProfile.Error
import NetProfile.Numeral

/-!
Arrays of eight numbers, one for each user priority. A rule bounds the numbers and may ask them to
add up to one hundred. The sum is taken in words of 32 bits; a sum that leaves its word is no error of
the text but the end of the run.
-/

namespace NetProfile

abbrev Slots := Vector UInt32 8

structure SlotRule where
  largest : UInt32
  /-- One more number that is accepted. -/
  other : Option UInt32 := none
  percent : Bool := false
deriving DecidableEq, Repr

namespace SlotRule

/-- Numbers up to one are shown as switches. -/
def isSwitch (rule : SlotRule) : Bool := rule.largest == 1

def reject (rule : SlotRule) (token : String) : Error :=
  .invalid token (.slotValue token rule.largest.toNat (rule.other.map UInt32.toNat))

def upper (rule : SlotRule) : Nat := max (rule.other.getD rule.largest).toNat rule.largest.toNat

def readSlot (rule : SlotRule) (field : String) : Except Error UInt32 :=
  let token := Text.trim field
  match Numeral.natural? (.fixed 10) rule.upper token with
  | none => .error (rule.reject token)
  | some n =>
    let value := UInt32.ofNat n
    if rule.largest < value ∧ some value ≠ rule.other then .error (rule.reject token)
    else .ok value

def readSlots (rule : SlotRule) (text : String) : Except Error Slots :=
  match Text.pieces (· == ',') text with
  | [a, b, c, d, e, f, g, h] => do
    return #v[← rule.readSlot a, ← rule.readSlot b, ← rule.readSlot c, ← rule.readSlot d,
      ← rule.readSlot e, ← rule.readSlot f, ← rule.readSlot g, ← rule.readSlot h]
  | _ => .error (.invalid text .slotCount)

def add? (total slot : UInt32) : Option UInt32 :=
  if total.toNat + slot.toNat < 4294967296 then some (total + slot) else none

def total? (slots : Slots) : Option UInt32 := slots.toList.foldlM add? 0

/-- Percentages have to add up to one hundred. -/
def checkTotal (rule : SlotRule) (text : String) (slots : Slots) : Except Error Unit :=
  if rule.percent then
    match total? slots with
    | none => .error .overflow
    | some total => if total = 100 then .ok () else .error (.invalid text .percentTotal)
  else .ok ()

def parse (rule : SlotRule) (text : String) : Except Error Slots := do
  let slots ← rule.readSlots text
  rule.checkTotal text slots
  return slots

def formatSlot (rule : SlotRule) (value : UInt32) : String :=
  if rule.isSwitch then (if value = 0 then "0" else "1") else Numeral.decimalDigits value.toNat

def format (rule : SlotRule) (slots : Slots) : String :=
  String.intercalate "," (slots.toList.map rule.formatSlot)

end SlotRule

end NetProfile
