/-!
Letter case of ASCII letters. All other characters are left as they are.
-/

namespace NetProfile.Text

def lower (text : String) : String := String.ofList (text.toList.map Char.toLower)

/-- Equality of texts up to the case of ASCII letters. -/
def sameIgnoringCase (a b : String) : Bool := a.toList.map Char.toLower == b.toList.map Char.toLower

def isHexDigit (c : Char) : Bool :=
  ('0' ≤ c && c ≤ '9') || ('a' ≤ c && c ≤ 'f') || ('A' ≤ c && c ≤ 'F')

def isAsciiDigit (c : Char) : Bool := '0' ≤ c && c ≤ '9'

def isAsciiLetter (c : Char) : Bool := ('a' ≤ c && c ≤ 'z') || ('A' ≤ c && c ≤ 'Z')

end NetProfile.Text
