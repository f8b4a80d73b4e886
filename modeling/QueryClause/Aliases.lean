import QueryClause.Dict
import QueryClause.Json.Fields

/-!
# Aliases

`Aliases` says by which qualifier the columns of an entity are addressed: not at all if the entity
is not mentioned, by the table if its alias is empty, and by the alias otherwise.
-/

namespace QueryClause

/-- The aliases of entities. -/
structure Aliases where
  entries : Dict String

namespace Aliases

/-- No aliases. -/
def empty : Aliases := ⟨∅⟩

/-- Set the alias of an entity. -/
def insert (a : Aliases) (entity name : String) : Aliases := ⟨a.entries.insert entity name⟩

/-- Aliases from pairs; the last one of an entity counts. -/
def ofList (l : List (String × String)) : Aliases := ⟨Dict.ofList l⟩

/-- The alias of an entity. -/
def get? (a : Aliases) (entity : String) : Option String := a.entries.get? entity

/-- The qualifier of a column that belongs to an entity stored in a table. -/
def qualifier? (a : Aliases) (entity table : String) : Option String :=
  (a.get? entity).map fun name => if name.isEmpty then table else name

/-- The same aliases for the same entities. -/
def same (a b : Aliases) : Bool := a.entries.sameEntries b.entries

/-- Aliases as JSON. -/
def toJson (a : Aliases) : Json :=
  .object (a.entries.entries.map fun e => (e.1, .string e.2))

/-- Read aliases; the last one of an entity counts. -/
def ofJson? (j : Json) : Option Aliases := (Json.map? Json.string? j).map ofList

end Aliases

end QueryClause
