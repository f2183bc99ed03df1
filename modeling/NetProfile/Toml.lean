/-!
TOML documents as trees. A document is a list of named entries in the order in which their names
first came up; a name stands once in its table.
-/

namespace NetProfile

/-- How a table came about. This decides what may be added to it afterwards. -/
inductive TableOrigin where
  /-- It has a header of its own. -/
  | header
  /-- It lies on the way to a table with a header. -/
  | implied
  /-- It lies on the way of a dotted name. -/
  | dotted
  /-- It is written in braces, and complete. -/
  | inline
deriving DecidableEq, Repr

inductive Toml where
  | text (value : String)
  | bool (value : Bool)
  | integer (value : Int)
  /-- A number with a point or an exponent, or one that is none, by its literal. -/
  | decimal (literal : String)
  /-- A date, a time or both, by its literal. -/
  | moment (literal : String)
  | array (items : List Toml)
  | table (origin : TableOrigin) (entries : List (String × Toml))
  /-- Tables that share one header, of which there is at least one. -/
  | tables (members : List (List (String × Toml)))
deriving Inhabited

namespace Toml

abbrev Entries := List (String × Toml)

namespace Entries

def get? (entries : Entries) (name : String) : Option Toml :=
  (entries.find? (·.1 = name)).map Prod.snd

/-- Gives the entry of a name another value and leaves it in its place. -/
def replace (entries : Entries) (name : String) (value : Toml) : Entries :=
  entries.map fun entry => if entry.1 = name then (name, value) else entry

def add? (entries : Entries) (name : String) (value : Toml) : Option Entries :=
  if (entries.get? name).isSome then none else some (entries ++ [(name, value)])

theorem get?_add? {entries after : Entries} {name : String} {value : Toml}
    (added : entries.add? name value = some after) : after.get? name = some value := by
  unfold add? at added
  split at added
  · cases added
  · next absent =>
    cases added
    cases found : entries.find? (·.1 = name) with
    | none => simp [get?, List.find?_append, found]
    | some entry => simp [get?, found] at absent

end Entries

end Toml

end NetProfile
