import NetProfile.Error
import NetProfile.Numeral

/-!
Strings of octets, written in hexadecimal: digits in pairs, groups between colons or, where `spaced`
is allowed, groups between blanks.
-/

namespace NetProfile.Octets

def stripMark (cs : List Char) : List Char := (Numeral.stripHexMark? cs).getD cs

def group? (cs : List Char) : Option UInt8 :=
  if cs.length ≤ 2 then (Numeral.unsigned? 16 cs).map UInt8.ofNat else none

def pairs? : List Char → Option (List UInt8)
  | [] => some []
  | [_] => none
  | a :: b :: rest =>
    match Numeral.value? 16 [a, b], pairs? rest with
    | some n, some octets => some (UInt8.ofNat n :: octets)
    | _, _ => none

def compact? (text : List Char) : Option (List UInt8) :=
  let body := stripMark text
  if body = [] then none
  else if ':' ∈ body then (Text.piecesOf (· == ':') body).mapM group?
  else pairs? body

def spacedGroup (cs : List Char) : Except Error UInt8 :=
  match group? (stripMark cs) with
  | some octet => .ok octet
  | none => .error (.invalid (String.ofList cs) (.notHexByte (String.ofList cs)))

def spaced (text : List Char) : Except Error (List UInt8) :=
  ((Text.piecesOf Text.isBlank text).filter (· ≠ [])).mapM spacedGroup

/-- A blank text stands for no octets at all. -/
def parse (allowSpaced : Bool) (text : String) : Except Error (Option (List UInt8)) :=
  let text := Text.trim text
  if text = "" then .ok none
  else match compact? text.toList with
    | some octets => .ok (some octets)
    | none =>
      if allowSpaced then (spaced text.toList).map some
      else .error (.invalid text (.notHexString text))

def format (octets : List UInt8) : String := String.ofList (octets.flatMap Numeral.hexByte)

end NetProfile.Octets
