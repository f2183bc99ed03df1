import NetProfile.Error
import NetProfile.Text.Utf8

/-!
Wireless networks: their names, the channels of the two bands and keys of wired equivalent privacy.
-/

namespace NetProfile

namespace NetworkName

/-- One to 32 bytes, as they stand. -/
def parse (text : String) : Except Error String :=
  if text = "" ∨ 32 < Text.byteLength text then .error (.invalid text (.notValid text))
  else .ok text

end NetworkName

namespace WifiChannel

/-- The channels at 5 GHz. -/
def upperBand : List Nat :=
  [7, 8, 9, 11, 12, 16, 34, 36, 38, 40, 42, 44, 46, 48, 52, 56, 60, 64, 100, 104, 108, 112, 116,
    120, 124, 128, 132, 136, 140, 144, 149, 153, 157, 161, 165, 169, 173, 183, 184, 185, 187, 189]

/-- The channels 1 to 14 are those at 2.4 GHz. -/
def isChannel (n : Nat) : Bool := (1 ≤ n && n ≤ 14) || upperBand.contains n

end WifiChannel

/-- How a key is meant: as the key itself, or as a phrase that it is made from. -/
inductive WepKeyType where
  | unknown
  | key
  | passphrase
deriving DecidableEq, Repr

namespace WepKeyType

def ofNumber (n : Int64) : WepKeyType :=
  if n = 1 then key else if n = 2 then passphrase else unknown

def number : WepKeyType → Int64
  | unknown => 0
  | key => 1
  | passphrase => 2

def label : WepKeyType → String
  | unknown => "0 (unknown)"
  | key => "1 (key)"
  | passphrase => "2 (passphrase)"

theorem ofNumber_number (type : WepKeyType) : ofNumber type.number = type := by
  cases type <;> decide

end WepKeyType

namespace WepKey

def isHexKey (text : String) : Bool :=
  (Text.byteLength text == 10 || Text.byteLength text == 26) && text.toList.all Text.isHexDigit

def isAsciiKey (text : String) : Bool :=
  (Text.byteLength text == 5 || Text.byteLength text == 13)
    && text.toList.all fun c => ' ' ≤ c && c ≤ '~'

def isPassphrase (text : String) : Bool := text ≠ "" && Text.byteLength text ≤ 64

def fits (text : String) : WepKeyType → Bool
  | .key => isHexKey text || isAsciiKey text
  | .passphrase => isPassphrase text
  | .unknown => isHexKey text || isAsciiKey text || isPassphrase text

def slotNames : List String := ["wep-key0", "wep-key1", "wep-key2", "wep-key3"]

end WepKey

end NetProfile
