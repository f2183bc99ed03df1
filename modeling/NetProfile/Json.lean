import NetProfile.Numeral

/-!
JSON values as trees. Objects keep their members in the order of the text, repeated names included;
what a repetition means is for the reader of the tree to say.
-/

namespace NetProfile

inductive Json where
  | null
  | bool (value : Bool)
  | int (value : Int)
  /-- A number that is not written as an integer, by its literal. -/
  | real (literal : String)
  | text (value : String)
  | array (items : List Json)
  | object (members : List (String × Json))
  /-- A part in good form that denotes nothing: a number beyond all bounds, a text with half of a
  surrogate pair, a part nested too deep. It may stand only where nobody asks for its value. -/
  | unreadable
deriving Inhabited

namespace Json

mutual

/-- Whether every part denotes something. -/
def isReadable : Json → Bool
  | array items => areReadable items
  | object members => membersReadable members
  | unreadable => false
  | _ => true

def areReadable : List Json → Bool
  | [] => true
  | item :: items => isReadable item && areReadable items

def membersReadable : List (String × Json) → Bool
  | [] => true
  | (_, value) :: members => isReadable value && membersReadable members

end

/-- The double nearest to a natural number below the greatest one, ties to even. -/
def nearestDouble (n : Nat) : Nat :=
  let unit := Nat.pow 2 (n.log2 + 1 - 53)
  let below := n / unit
  let up := unit < 2 * (n % unit) ∨ (unit = 2 * (n % unit) ∧ below % 2 = 1 ∧ 1 < unit)
  (if up then below + 1 else below) * unit

/-- Takes digits as long as the number fits into 64 bits; gives the digits that are left, too. -/
def takeDigits (n : Nat) : List Char → Nat × List Char
  | [] => (n, [])
  | c :: cs =>
    let next := n * 10 + (c.toNat - 48)
    if next < 18446744073709551616 then takeDigits next cs else (n, c :: cs)

/-- Whether `significand * 10 ^ exponent` is below all infinities, each factor rounded first. -/
def isFinite (significand : Nat) (exponent : Int) : Bool :=
  significand = 0 || exponent < 0
    || (exponent ≤ 308
      && nearestDouble significand * nearestDouble (Nat.pow 10 exponent.toNat)
        < Numeral.doubleBound)

/-- Whether a number with these digits can be held as a double. -/
def fitsDouble (whole fraction : List Char) (exponent : Int) : Bool :=
  let (n, left) := takeDigits 0 whole
  let (m, unused) := takeDigits n fraction
  isFinite m (left.length - (fraction.length - unused.length) + exponent)

/-- The fraction of a literal and what follows it; no digits after a point is an error. -/
def splitFraction : List Char → Option (List Char × List Char)
  | '.' :: rest =>
    let digits := rest.takeWhile Text.isAsciiDigit
    if digits = [] then none else some (digits, rest.dropWhile Text.isAsciiDigit)
  | rest => some ([], rest)

def exponent? : List Char → Option Int
  | [] => some 0
  | e :: rest =>
    if e = 'e' ∨ e = 'E' then
      match rest with
      | '-' :: digits => (Numeral.value? 10 digits).map fun n => -(n : Int)
      | '+' :: digits => (Numeral.value? 10 digits).map fun n => (n : Int)
      | digits => (Numeral.value? 10 digits).map fun n => (n : Int)
    else none

/-- The number of a literal: no needless zeros before it, no bare sign or point. A minus before zero
makes a number that is no integer. -/
def number? (literal : List Char) : Option Json :=
  let (negative, body) := match literal with
    | '-' :: rest => (true, rest)
    | rest => (false, rest)
  let whole := body.takeWhile Text.isAsciiDigit
  let rest := body.dropWhile Text.isAsciiDigit
  if whole = [] ∨ (whole.head? = some '0' ∧ 1 < whole.length) then none
  else
    match splitFraction rest with
    | none => none
    | some (fraction, rest') =>
      match exponent? rest' with
      | none => none
      | some exponent =>
        if !fitsDouble whole fraction exponent then some .unreadable
        else if rest = [] ∧ ¬(negative ∧ whole = ['0']) then
          let n : Int := (Numeral.valueFrom 10 0 whole).getD 0
          some (.int (if negative then -n else n))
        else some (.real (String.ofList literal))

end Json

end NetProfile
