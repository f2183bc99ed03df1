import NetProfile.Numeral
import NetProfile.Toml

/-!
Literals of numbers. Single underscores may stand between digits. Integers have 64 bits; a decimal
number must not lie beyond all doubles.
-/

namespace NetProfile.Toml

/-- The digits of a literal without the underscores between them. -/
def ungrouped? (isDigit : Char → Bool) : List Char → Option (List Char)
  | [] => none
  | [c] => if isDigit c then some [c] else none
  | c :: '_' :: rest => if isDigit c then (ungrouped? isDigit rest).map (c :: ·) else none
  | c :: d :: rest => if isDigit c then (ungrouped? isDigit (d :: rest)).map (c :: ·) else none

/-- The number that grouped digits of a radix denote. -/
def grouped? (radix : Nat) (cs : List Char) : Option Nat :=
  (ungrouped? (Numeral.isDigitOf radix) cs).bind (Numeral.value? radix)

/-- The digits of a decimal number before its point, which begin with zero only if it is alone. -/
def wholeDigits? (cs : List Char) : Option (List Char) :=
  match ungrouped? Text.isAsciiDigit cs with
  | some ('0' :: _ :: _) => none
  | digits => digits

/-- The integer of a literal. Only decimal ones have a sign. -/
def integer? (cs : List Char) : Option Int :=
  let value := match cs with
    | '0' :: 'x' :: digits => (grouped? 16 digits).map Int.ofNat
    | '0' :: 'o' :: digits => (grouped? 8 digits).map Int.ofNat
    | '0' :: 'b' :: digits => (grouped? 2 digits).map Int.ofNat
    | _ =>
      let (negative, body) := Numeral.splitSign cs
      ((wholeDigits? body).bind (Numeral.value? 10)).map fun n =>
        if negative then -(n : Int) else n
  value.filter fun n => -9223372036854775808 ≤ n ∧ n ≤ 9223372036854775807

/-- Whether a character belongs to a run of grouped digits. -/
def isGroupChar (c : Char) : Bool := Text.isAsciiDigit c || c == '_'

/-- Whether `digits` with the point moved to the right by `shift` rounds to a double. -/
def roundsToDouble (digits : List Char) (shift : Int) : Bool :=
  let significant := digits.dropWhile (· = '0')
  let size : Int := significant.length + shift
  let n := (Numeral.value? 10 significant).getD 0
  n = 0 || size ≤ 308
    || (size ≤ 309
      && if shift < 0 then n < Numeral.doubleBound * Nat.pow 10 (-shift).toNat
        else n * Nat.pow 10 shift.toNat < Numeral.doubleBound)

/-- The digits after a point; none if there is no point. -/
def fraction? : List Char → Option (List Char × List Char)
  | '.' :: rest =>
    (ungrouped? Text.isAsciiDigit (rest.takeWhile isGroupChar)).map fun digits =>
      (digits, rest.dropWhile isGroupChar)
  | rest => some ([], rest)

/-- The exponent that ends a literal; zero if there is none. -/
def power? : List Char → Option Int
  | [] => some 0
  | e :: rest =>
    if e = 'e' ∨ e = 'E' then
      let (negative, digits) := Numeral.splitSign rest
      (grouped? 10 digits).map fun n => if negative then -(n : Int) else n
    else none

/-- Whether a literal is a number with a point or an exponent, infinite, or no number at all. A
number below all doubles passes, one above them does not. -/
def isDecimal (cs : List Char) : Bool :=
  let (negative, body) := Numeral.splitSign cs
  if body = ['i', 'n', 'f'] ∨ body = ['n', 'a', 'n'] then true
  else
    let rest := body.dropWhile isGroupChar
    match wholeDigits? (body.takeWhile isGroupChar), fraction? rest with
    | some whole, some (fraction, exponent) =>
      rest ≠ []
        && match power? exponent with
          | some power => negative || roundsToDouble (whole ++ fraction) (power - fraction.length)
          | none => false
    | _, _ => false

example : integer? "-1_000".toList = some (-1000) ∧ integer? "0xFF".toList = some 255 := by
  decide +kernel
example : integer? "007".toList = none ∧ integer? "1__0".toList = none := by decide +kernel
example : isDecimal "1.7976931348623157e308".toList = true := by decide +kernel
example : isDecimal "1e309".toList = false ∧ isDecimal "-1e309".toList = true := by decide +kernel

end NetProfile.Toml
