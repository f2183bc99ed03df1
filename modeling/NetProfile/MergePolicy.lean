import NetProfile.Error
import NetProfile.Numeral

/-!
How new items join a list, and how items leave it: by their position or by their value.
-/

namespace NetProfile

inductive MergePolicy where
  /-- All new items go to the end. -/
  | append
  /-- Items that are not yet there go to the end. -/
  | unique
  /-- Each new item goes to the end and leaves its former place. -/
  | moveToEnd
  /-- The new items take the place of the list. -/
  | replace
deriving DecidableEq, Repr

namespace MergePolicy

variable {α : Type} [DecidableEq α]

def addUnique (list : List α) (item : α) : List α := if item ∈ list then list else list ++ [item]

def addLast (list : List α) (item : α) : List α := list.filter (· ≠ item) ++ [item]

def merge (policy : MergePolicy) (list added : List α) : List α :=
  match policy with
  | append => list ++ added
  | unique => added.foldl addUnique list
  | moveToEnd => added.foldl addLast list
  | replace => added

end MergePolicy

/-- A text of digits that is a position in a list of the given size. -/
def position? (size : Nat) (text : String) : Option Nat :=
  match Numeral.value? 10 (Text.trimChars text.toList) with
  | some n => if n < size then some n else none
  | none => none

/-- Reads every item of a text; the first error is that of the whole. -/
def readItems {α : Type} (isSeparator : Char → Bool) (read : String → Except Error α)
    (text : String) : Except Error (List α) :=
  (Text.items isSeparator text).mapM read

/-- Drops the item at the position that the text names, or else the first item that equals the one
it writes. A value that is not there is no error. -/
def removeOne {α : Type} [DecidableEq α] (read : String → Except Error α) (list : List α)
    (text : String) : Except Error (List α) :=
  match position? list.length text with
  | some index => .ok (list.eraseIdx index)
  | none => do
    let value ← read (Text.trim text)
    .ok (list.erase value)

/-- Puts an item in the place of the first one with the same key, or at the end. -/
def putKeyed {α : Type} (sameKey : α → α → Bool) (item : α) : List α → List α
  | [] => [item]
  | other :: list =>
    if sameKey other item then item :: list else other :: putKeyed sameKey item list

end NetProfile
