import NetProfile.Toml

/-!
Where the entries and headers of a document put their tables. A table that has a header, or is
written in braces, takes nothing in through dotted names; a header opens a table once.
-/

namespace NetProfile.Toml.Entries

/-- Changes the table to which a path of names leads, and makes the tables on the way that are not
there. Dotted names do not lead through tables with a header; nothing leads into braces. Of tables
that share a header the last one is meant. `origin` is that of the table where the path begins. -/
def within (dotted : Bool) (change : TableOrigin → Entries → Option Entries) :
    List String → TableOrigin → Entries → Option Entries
  | [], origin, entries => change origin entries
  | name :: path, _, entries =>
    match entries.get? name with
    | none =>
      let origin := if dotted then TableOrigin.dotted else .implied
      (within dotted change path origin []).map fun inner =>
        entries ++ [(name, .table origin inner)]
    | some (.table origin inner) =>
      if origin = .inline ∨ (dotted ∧ origin = .header) then none
      else (within dotted change path origin inner).map fun after =>
        entries.replace name (.table origin after)
    | some (.tables members) =>
      (within dotted change path .header (members.getLast?.getD [])).map fun after =>
        entries.replace name (.tables (members.dropLast ++ [after]))
    | some _ => none

/-- Enters a value under a dotted name, `path` being its parts before the last. What takes the value
in is a table made by dotted names, or the table at hand when the name has no dots. -/
def enter (path : List String) (name : String) (value : Toml) (entries : Entries) :
    Option Entries :=
  let put := fun origin inner =>
    if path.isEmpty || origin == TableOrigin.dotted then add? inner name value else none
  within true put path .header entries

/-- Opens the table of a header. It must be new, or only have been implied so far. -/
def open? (name : String) (entries : Entries) : Option Entries :=
  match entries.get? name with
  | none => some (entries ++ [(name, .table .header [])])
  | some (.table .implied inner) => some (entries.replace name (.table .header inner))
  | some _ => none

/-- Opens another table among those that share a header. -/
def openNext? (name : String) (entries : Entries) : Option Entries :=
  match entries.get? name with
  | none => some (entries ++ [(name, .tables [[]])])
  | some (.tables members) => some (entries.replace name (.tables (members ++ [[]])))
  | some _ => none

end NetProfile.Toml.Entries
