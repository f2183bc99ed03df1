/-!
The two ways to show a value.
-/

namespace NetProfile

inductive Mode where
  /-- For programs: reads back as the same value. -/
  | parsable
  /-- For people, and possibly longer. -/
  | pretty
deriving DecidableEq, Repr

namespace Mode

def name : Mode → String
  | parsable => "parsable"
  | pretty => "pretty"

def ofName? (name : String) : Option Mode := [parsable, pretty].find? (·.name = name)

theorem ofName?_name (mode : Mode) : ofName? mode.name = some mode := by
  cases mode <;> decide

end Mode

end NetProfile
