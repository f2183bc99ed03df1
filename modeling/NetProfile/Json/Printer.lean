import NetProfile.Json

/-!
JSON texts of trees, on one line or with a line for each part.
-/

namespace NetProfile.Json

/-- A character inside a quoted text; only quotes, backslashes and control characters need escapes.
-/
def escape (c : Char) : List Char :=
  if c = '"' then ['\\', '"']
  else if c = '\\' then ['\\', '\\']
  else if c = '\x08' then ['\\', 'b']
  else if c = '\x0c' then ['\\', 'f']
  else if c = '\n' then ['\\', 'n']
  else if c = '\r' then ['\\', 'r']
  else if c = '\t' then ['\\', 't']
  else if c.toNat < 0x20 then
    ['\\', 'u', '0', '0', Nat.digitChar (c.toNat / 16), Nat.digitChar (c.toNat % 16)]
  else [c]

def quote (text : String) : List Char := '"' :: text.toList.flatMap escape ++ ['"']

/-- A line break and the space before a part that is nested `depth` times. -/
def newLine (depth : Nat) : List Char := '\n' :: List.replicate (2 * depth) ' '

mutual

def compact : Json → List Char
  | null | unreadable => ['n', 'u', 'l', 'l']
  | bool true => ['t', 'r', 'u', 'e']
  | bool false => ['f', 'a', 'l', 's', 'e']
  | int n => (Numeral.decimal n).toList
  | real literal => literal.toList
  | text value => quote value
  | array items => '[' :: compactItems items
  | object members => '\x7b' :: compactMembers members

def compactItems : List Json → List Char
  | [] => [']']
  | [item] => compact item ++ [']']
  | item :: items => compact item ++ ',' :: compactItems items

def compactMembers : List (String × Json) → List Char
  | [] => ['\x7d']
  | [(name, value)] => quote name ++ ':' :: compact value ++ ['\x7d']
  | (name, value) :: members => quote name ++ ':' :: compact value ++ ',' :: compactMembers members

end

mutual

/-- With a line for each item and member, inside `depth` arrays and objects. -/
def lines (depth : Nat) : Json → List Char
  | null | unreadable => ['n', 'u', 'l', 'l']
  | bool true => ['t', 'r', 'u', 'e']
  | bool false => ['f', 'a', 'l', 's', 'e']
  | int n => (Numeral.decimal n).toList
  | real literal => literal.toList
  | text value => quote value
  | array [] => ['[', ']']
  | array (item :: items) =>
    '[' :: newLine (depth + 1) ++ lines (depth + 1) item ++ itemLines (depth + 1) items
      ++ newLine depth ++ [']']
  | object [] => ['\x7b', '\x7d']
  | object ((name, value) :: members) =>
    '\x7b' :: newLine (depth + 1) ++ quote name ++ [':', ' '] ++ lines (depth + 1) value
      ++ memberLines (depth + 1) members ++ newLine depth ++ ['\x7d']

def itemLines (depth : Nat) : List Json → List Char
  | [] => []
  | item :: items => ',' :: newLine depth ++ lines depth item ++ itemLines depth items

def memberLines (depth : Nat) : List (String × Json) → List Char
  | [] => []
  | (name, value) :: members =>
    ',' :: newLine depth ++ quote name ++ [':', ' '] ++ lines depth value
      ++ memberLines depth members

end

def toLine (json : Json) : String := String.ofList (compact json)

def toLines (json : Json) : String := String.ofList (lines 0 json)

end NetProfile.Json
