import NetProfile.Error
import NetProfile.Text.Blank
import NetProfile.Text.Utf8

/-!
Names in a network: interfaces, hosts and search domains.
-/

namespace NetProfile

namespace InterfaceName

/-- The greatest length in bytes. -/
def longest : Nat := 15

def isAllowed (c : Char) : Bool := !(c == '/' || c == ':' || Text.isBlank c)

def isName (text : String) : Bool :=
  text ≠ "" && Text.byteLength text ≤ longest && text ≠ "." && text ≠ ".."
    && text.toList.all isAllowed

def parse (text : String) : Except Error String :=
  if text = "" then .error (.invalid text .emptyInterfaceName)
  else if longest < Text.byteLength text then .error (.invalid text (.longInterfaceName longest))
  else if isName text then .ok text
  else .error (.invalid text (.notInterfaceName text))

end InterfaceName

namespace Hostname

def isEnd (c : Char) : Bool := Text.isAsciiLetter c || Text.isAsciiDigit c || c == '_'

def isInner (c : Char) : Bool := isEnd c || c == '-'

/-- One to 63 letters, digits, underscores and hyphens, without a hyphen at either end. -/
def isLabel (label : List Char) : Bool :=
  1 ≤ label.length && label.length ≤ 63 && label.all isInner && label.head?.all isEnd
    && label.getLast?.all isEnd

def parse (text : String) : Except Error String :=
  if text = "" ∨ 253 < Text.byteLength text then .error (.invalid text (.hostnameLength text))
  else match (Text.piecesOf (· == '.') text.toList).find? (!isLabel ·) with
    | some label => .error (.invalid text (.hostnameLabel (String.ofList label) text))
    | none => .ok (Text.lower text)

end Hostname

namespace SearchDomain

/-- A host name that may have a tilde in front, which makes it a routing domain, and a dot at its
end, which is dropped. The tilde may also stand before the root. -/
def parse (text : String) : Except Error String :=
  if text = "~." then .ok text
  else
    let (mark, domain) := match Text.stripStart? "~" text with
      | some rest => ("~", rest)
      | none => ("", text)
    match Hostname.parse ((Text.stripEnd? "." domain).getD domain) with
    | .ok host => .ok (mark ++ host)
    | .error _ => .error (.invalid text (.notDomain text))

end SearchDomain

example : (SearchDomain.parse "~Example.COM.").toOption = some "~example.com" := by decide
example : (Hostname.parse "a-.b").toOption = none := by decide

end NetProfile
