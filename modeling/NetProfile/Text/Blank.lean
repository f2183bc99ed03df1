/-!
Blank characters and trimming. A character is blank when Unicode gives it the property White_Space:
line and paragraph separators, the no-break spaces and the ideographic space belong to it, the zero
width space and the byte order mark do not.
-/

namespace NetProfile.Text

def isBlank (c : Char) : Bool :=
  let n := c.toNat
  (9 ≤ n && n ≤ 13) || n == 0x20 || n == 0x85 || n == 0xA0 || n == 0x1680
    || (0x2000 ≤ n && n ≤ 0x200A) || n == 0x2028 || n == 0x2029 || n == 0x202F || n == 0x205F
    || n == 0x3000

def trimChars (cs : List Char) : List Char :=
  ((cs.dropWhile isBlank).reverse.dropWhile isBlank).reverse

def trim (text : String) : String := String.ofList (trimChars text.toList)

theorem toList_trim (text : String) : (trim text).toList = trimChars text.toList :=
  String.toList_ofList

example : isBlank '\u2028' = true ∧ isBlank '\u200b' = false ∧ isBlank '\ufeff' = false := by decide

end NetProfile.Text
