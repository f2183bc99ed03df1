import NetProfile.Text.Blank

/-!
Cutting a text at separators and gluing it together. `pieces` keeps every piece, `items` drops the
empty ones, `tokens` are the items between spaces and tabs, `cutOnce` cuts at the first separator only.
-/

namespace NetProfile.Text

/-- The pieces between separators: `n` separators make `n + 1` pieces, possibly empty. -/
def piecesOf (isSeparator : Char → Bool) : List Char → List (List Char)
  | [] => [[]]
  | c :: cs =>
    if isSeparator c then [] :: piecesOf isSeparator cs
    else match piecesOf isSeparator cs with
      | [] => [[c]]
      | piece :: others => (c :: piece) :: others

theorem piecesOf_ne_nil (isSeparator : Char → Bool) (cs : List Char) :
    piecesOf isSeparator cs ≠ [] := by
  cases cs with
  | nil => simp [piecesOf]
  | cons c cs =>
    unfold piecesOf
    split
    · simp
    · split <;> simp

def pieces (isSeparator : Char → Bool) (text : String) : List String :=
  (piecesOf isSeparator text.toList).map String.ofList

def items (isSeparator : Char → Bool) (text : String) : List String :=
  ((piecesOf isSeparator text.toList).filter (· ≠ [])).map String.ofList

/-- The parts before and after the first separator. -/
def cutOnceOf (separator : Char) : List Char → Option (List Char × List Char)
  | [] => none
  | c :: cs =>
    if c = separator then some ([], cs)
    else (cutOnceOf separator cs).map fun (before, after) => (c :: before, after)

def cutOnce (separator : Char) (text : String) : Option (String × String) :=
  (cutOnceOf separator text.toList).map fun (before, after) =>
    (String.ofList before, String.ofList after)

/-- The rest of `cs` after `head`, when it starts with it. -/
def dropHead? : List Char → List Char → Option (List Char)
  | [], cs => some cs
  | _ :: _, [] => none
  | h :: head, c :: cs => if h = c then dropHead? head cs else none

theorem dropHead?_eq_some_iff {head cs rest : List Char} :
    dropHead? head cs = some rest ↔ cs = head ++ rest := by
  induction head generalizing cs with
  | nil => simp [dropHead?, eq_comm]
  | cons h head ih =>
    cases cs with
    | nil => simp [dropHead?]
    | cons c cs =>
      by_cases same : h = c
      · simp [dropHead?, same, ih]
      · simp [dropHead?, same, Ne.symm same]

def stripStart? (head text : String) : Option String :=
  (dropHead? head.toList text.toList).map String.ofList

def startsWith (text head : String) : Bool := (dropHead? head.toList text.toList).isSome

/-- The text without `tail` at its end, when it ends so. -/
def stripEnd? (tail text : String) : Option String :=
  (dropHead? tail.toList.reverse text.toList.reverse).map fun rest => String.ofList rest.reverse

def isComma (c : Char) : Bool := c == ','

def isSpaceOrTab (c : Char) : Bool := c == ' ' || c == '\t'

def tokens (text : String) : List String := items isSpaceOrTab (trim text)

/-- The separators of plain lists: blanks on one line and commas. -/
def isListSeparator (c : Char) : Bool := c == ' ' || c == '\t' || c == ','

def contains (text : String) (c : Char) : Bool := text.toList.elem c

end NetProfile.Text
