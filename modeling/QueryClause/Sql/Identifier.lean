import QueryClause.Sql.Dialect
import QueryClause.Text.Alphanumeric

/-!
# Identifiers in SQL

An identifier is quoted by a pair of delimiters, and the closing one is doubled inside.  The generic
dialect and Oracle leave an identifier bare where that is safe (`Identifier.needsQuoting`).
-/

namespace QueryClause

namespace Identifier

/-- Words that cannot stand as bare identifiers. -/
def reservedWords : List String :=
  ["order", "group", "user", "table", "select", "from", "where", "join", "left", "right", "inner",
   "outer", "on", "and", "or", "not", "null", "true", "false", "as", "in", "is", "like", "between",
   "having", "union", "all", "distinct", "case", "when", "then", "else", "end", "insert", "update",
   "delete", "index", "key", "primary", "default", "check", "level", "size", "date", "number",
   "comment", "uid", "rowid"]

/-- Whether a character can be part of a bare identifier. -/
def isBareChar (c : Char) : Bool := Text.isAlphanumeric c || c == '_'

/-- Whether a name cannot stand bare: a reserved word in any letter case, an empty name, one with a
character that does not belong, or one that starts with a numeric character. -/
def needsQuoting (name : String) : Bool :=
  reservedWords.contains (Dialect.lowered name) || name.isEmpty ||
    !name.toList.all isBareChar || (name.toList.head?.map Text.isNumeric).getD false

/-- The characters with each occurrence of `c` doubled. -/
def doubled (c : Char) (s : List Char) : List Char :=
  s.flatMap fun d => if d = c then [c, c] else [d]

/-- A name between delimiters, with the closing one doubled inside. -/
def quoteWith (first last : Char) (name : String) : String :=
  String.ofList (first :: doubled last name.toList ++ [last])

/-- A name in double quotes if it needs them. -/
def quoteIfNeeded (name : String) : String :=
  if needsQuoting name then quoteWith '"' '"' name else name

end Identifier

namespace Dialect

/-- The name of a table, an alias or a column. -/
def quoteIdentifier (d : Dialect) (name : String) : String :=
  match d with
  | generic | oracle => Identifier.quoteIfNeeded name
  | postgres | sqlite => Identifier.quoteWith '"' '"' name
  | mysql => Identifier.quoteWith '\x60' '\x60' name
  | sqlServer => Identifier.quoteWith '[' ']' name

/-- A column of a table. -/
def qualifiedColumn (d : Dialect) (table column : String) : String :=
  d.quoteIdentifier table ++ "." ++ d.quoteIdentifier column

end Dialect

end QueryClause
