import QueryClause.Text.LetterCase

/-!
# Dialects of SQL
-/

namespace QueryClause

/-- A dialect of SQL. -/
inductive Dialect where
  | generic
  | oracle
  | postgres
  | mysql
  | sqlite
  | sqlServer
  deriving DecidableEq, Repr, Inhabited

namespace Dialect

/-- All dialects. -/
def all : List Dialect := [generic, oracle, postgres, mysql, sqlite, sqlServer]

/-- The name of a dialect. -/
def name : Dialect → String
  | generic => "generic"
  | oracle => "oracle"
  | postgres => "postgres"
  | mysql => "mysql"
  | sqlite => "sqlite"
  | sqlServer => "sqlserver"

/-- The dialect with a name. -/
def ofName? (s : String) : Option Dialect := all.find? fun d => d.name == s

/-- Other names that dialects go by. -/
def aliases : List (String × Dialect) :=
  [("ansi", generic), ("postgresql", postgres), ("pg", postgres), ("mssql", sqlServer)]

/-- A text in lower case. -/
def lowered (s : String) : String := String.ofList (Text.toLower s.toList)

/-- The dialect that a user names, in any letter case. -/
def ofText? (s : String) : Option Dialect := (ofName? (lowered s)).or (aliases.lookup (lowered s))

/-- The answer to a user who names no dialect. -/
def unknownMessage (s : String) : String := "unknown dialect '" ++ lowered s ++ "'"

end Dialect

/-- What SQL is written for: a dialect, and whether Oracle gets identifiers as bare digits. -/
structure Target where
  dialect : Dialect
  compactGuid : Bool
  deriving DecidableEq, Repr, Inhabited

end QueryClause
