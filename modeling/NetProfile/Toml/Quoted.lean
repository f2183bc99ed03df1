import NetProfile.Numeral

/-!
Texts as TOML values: between double quotes on one line, with escapes for quotes, backslashes and
control characters.
-/

namespace NetProfile.Toml

def escapeChar (c : Char) : List Char :=
  if c = '"' then ['\\', '"']
  else if c = '\\' then ['\\', '\\']
  else if c = '\n' then ['\\', 'n']
  else if c = '\r' then ['\\', 'r']
  else if c = '\t' then ['\\', 't']
  else if c = '\x08' then ['\\', 'b']
  else if c = '\x0c' then ['\\', 'f']
  else if c.toNat < 0x20 ∨ c.toNat = 0x7F then
    '\\' :: 'u' :: (Numeral.hexPadded 4 c.toNat).toList
  else [c]

def quotedChars (cs : List Char) : List Char := '"' :: cs.flatMap escapeChar ++ ['"']

def quoted (text : String) : String := String.ofList (quotedChars text.toList)

example : quoted "a\"\n\x7f" = "\"a\\\"\\n\\u007f\"" := by decide +kernel

end NetProfile.Toml
