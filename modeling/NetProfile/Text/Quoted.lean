import NetProfile.Numeral
import NetProfile.Text.Unshown

/-!
Texts between double quotes. Quotes and backslashes have a backslash in front, the usual controls
their letters, and other characters that cannot be shown their numbers.
-/

namespace NetProfile.Text

def quotedChar (c : Char) : List Char :=
  match c with
  | '\x00' => ['\\', '0']
  | '\t' => ['\\', 't']
  | '\r' => ['\\', 'r']
  | '\n' => ['\\', 'n']
  | '"' => ['\\', '"']
  | '\\' => ['\\', '\\']
  | c => if isUnshown c then "\\u\x7b".toList ++ Nat.toDigits 16 c.toNat ++ ['\x7d'] else [c]

def quoted (text : String) : String :=
  String.ofList ('"' :: text.toList.flatMap quotedChar ++ ['"'])

set_option maxRecDepth 8000 in
example : quoted "a\"b\u200b" = "\"a\\\"b\\u\x7b200b\x7d\"" := by decide

end NetProfile.Text
