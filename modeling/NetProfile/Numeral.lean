import NetProfile.Text.Blank
import NetProfile.Text.Case
import NetProfile.Text.Fields

/-!
Written integers: digits of a radix to a number and back. `Base` says how the radix of a text is
found; `readSigned` gives the exact integer of a text, however many digits it has.
-/

namespace NetProfile

namespace Numeral

/-- Digits go on with letters of either case: `a` is ten, `z` is thirty-five. -/
def digitValue (c : Char) : Option Nat :=
  if '0' ≤ c && c ≤ '9' then some (c.toNat - 48)
  else if 'a' ≤ c && c ≤ 'z' then some (c.toNat - 87)
  else if 'A' ≤ c && c ≤ 'Z' then some (c.toNat - 55)
  else none

def isDigitOf (radix : Nat) (c : Char) : Bool :=
  match digitValue c with
  | some d => d < radix
  | none => false

/-- Goes on with a number to whose right the digits `cs` stand. -/
def valueFrom (radix : Nat) : Nat → List Char → Option Nat
  | n, [] => some n
  | n, c :: cs =>
    if isDigitOf radix c then valueFrom radix (n * radix + (digitValue c).getD 0) cs else none

def value? (radix : Nat) (cs : List Char) : Option Nat :=
  if cs = [] then none else valueFrom radix 0 cs

/-- One or more digits of `radix` after at most one plus sign. -/
def unsigned? (radix : Nat) : List Char → Option Nat
  | '+' :: digits => value? radix digits
  | digits => value? radix digits

def decimalDigits (n : Nat) : String := String.ofList (Nat.toDigits 10 n)

def decimal : Int → String
  | .ofNat n => decimalDigits n
  | .negSucc n => "-" ++ decimalDigits (n + 1)

/-- Lower-case hexadecimal digits, as few as possible. -/
def hexDigits (n : Nat) : String := String.ofList (Nat.toDigits 16 n)

/-- A signed word as `0x` and the digits of its two's complement. -/
def hexWord (word : Int64) : String := "0x" ++ hexDigits word.toUInt64.toNat

/-- Hexadecimal digits filled up with zeros to `width`. -/
def hexPadded (width n : Nat) : String :=
  let digits := Nat.toDigits 16 n
  String.ofList (List.replicate (width - digits.length) '0' ++ digits)

def upperHexDigit (n : Nat) : Char := Char.toUpper (Nat.digitChar n)

def hexByte (b : UInt8) : List Char := [upperHexDigit (b.toNat / 16), upperHexDigit (b.toNat % 16)]

/-- Natural numbers from this one on round to no finite double. -/
def doubleBound : Nat := Nat.pow 2 1024 - Nat.pow 2 970

/-- How the radix of a written integer is found: `automatic` goes by the start of the digits, `0x`
for sixteen and `0` with more digits for eight. -/
inductive Base where
  | automatic
  | hexadecimal
  | fixed (radix : Nat)
deriving DecidableEq, Repr

def stripHexMark? (cs : List Char) : Option (List Char) :=
  match cs with
  | '0' :: 'x' :: rest => some rest
  | '0' :: 'X' :: rest => some rest
  | _ => none

/-- The radix and the digits that are left once its mark is taken off. -/
def Base.split (base : Base) (cs : List Char) : Nat × List Char :=
  match base with
  | .fixed radix => (radix, cs)
  | .hexadecimal => (16, (stripHexMark? cs).getD cs)
  | .automatic =>
    match stripHexMark? cs with
    | some digits => (16, digits)
    | none =>
      match cs with
      | '0' :: d :: rest => (8, d :: rest)
      | _ => (10, cs)

/-- Takes off at most one sign; `true` stands for minus. -/
def splitSign : List Char → Bool × List Char
  | '-' :: rest => (true, rest)
  | '+' :: rest => (false, rest)
  | cs => (false, cs)

/-- The largest number that a signed word of 128 bits holds. -/
def widest : Nat := Nat.pow 2 127 - 1

/-- Goes on like `valueFrom` with characters that are known to be digits, as long as the number fits
into a signed word of 128 bits. -/
def gatherFrom (radix : Nat) : Nat → List Char → Option Nat
  | n, [] => some n
  | n, c :: cs =>
    let next := n * radix + (digitValue c).getD 0
    if next ≤ widest then gatherFrom radix next cs else none

/-- The integer with a sign, `true` for minus, and a magnitude. -/
def withSign (negative : Bool) (magnitude : Nat) : Int := if negative then -magnitude else magnitude

/-- The integer that a text denotes, blanks at its ends aside. -/
def readSigned (base : Base) (text : String) : Option Int :=
  let (negative, body) := splitSign (Text.trimChars text.toList)
  let (radix, digits) := base.split body
  (value? radix digits).map fun n => if negative then -(n : Int) else n

/-- The number that a text denotes, when it is at most `limit`. -/
def natural? (base : Base) (limit : Nat) (text : String) : Option Nat :=
  match readSigned base text with
  | some n => if 0 ≤ n ∧ n ≤ limit then some n.toNat else none
  | none => none

example : readSigned .automatic " -0x1F " = some (-31) := by decide
example : readSigned .automatic "017" = some 15 := by decide
example : readSigned (.fixed 10) "+ 5" = none := by decide
example : decimal (-120) = "-120" := by decide
example : hexWord (-1) = "0xffffffffffffffff" := by decide

end Numeral

end NetProfile
