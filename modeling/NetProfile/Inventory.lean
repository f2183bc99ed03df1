import NetProfile.Numeral

/-!
The devices of a machine, in the order in which they are listed: by the text before the first digit,
then by the number that all digits of the name make together, then by the name itself.
-/

namespace NetProfile

namespace DeviceName

def stem (name : String) : String :=
  String.ofList (name.toList.takeWhile fun c => !Text.isAsciiDigit c)

/-- The number that all digits of the name make together, wherever they stand; zero without any. -/
def joined (name : String) : Nat :=
  (Numeral.value? 10 (name.toList.filter Text.isAsciiDigit)).getD 0

/-- A number that needs more than 32 bits counts as zero. -/
def number (name : String) : Nat := if joined name < 4294967296 then joined name else 0

/-- Whether the first name is listed before the second one or is the same. -/
def precedes (a b : String) : Bool :=
  if stem a ≠ stem b then stem a < stem b
  else if number a ≠ number b then number a < number b
  else a ≤ b

example : precedes "eth2" "eth10" = true ∧ precedes "eth10" "lo" = true := by decide +kernel
example : number "veth0.20" = 20 ∧ number "enp0s31f6" = 316 := by decide +kernel

end DeviceName

/-- The devices that a directory with these entries shows. -/
def listDevices (entries : List String) : List String := entries.mergeSort DeviceName.precedes

end NetProfile
