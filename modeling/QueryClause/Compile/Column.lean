import QueryClause.Compile.Context
import QueryClause.Sql.Identifier

/-!
# Columns

A member of the query parameter is a column.  `Context.column` finds its entity, looks it up in the
schema, and writes it with the qualifier that the aliases give.
-/

namespace QueryClause

namespace Expr

/-- Whether the expression is a query parameter, possibly brought to another type. -/
def isRow : Expr → Bool
  | parameter .. => true
  | unary .convert (parameter ..) _ _ => true
  | _ => false

/-- Whether the expression is a column: a member of a query parameter. -/
def isColumn : Expr → Bool
  | member target _ _ _ => target.isRow
  | _ => false

/-- Whether the expression is a chain of calls and conversions on a column. -/
def isColumnRooted : Expr → Bool
  | member target _ _ _ => target.isRow
  | call target _ _ _ _ => target.isColumnRooted
  | unary .convert operand _ _ => operand.isColumnRooted
  | _ => false

/-- The entity that a conversion started from. -/
def convertedEntity? : Expr → Option String
  | unary .convert operand _ _ => operand.staticType.entityName?
  | _ => none

/-- The entity that a member of `target` belongs to: the one that a conversion started from, the
declared one, or the type of the target. -/
def entityOf? (target : Expr) (declaring : Option String) : Option String :=
  (target.convertedEntity?.or declaring).or target.staticType.entityName?

end Expr

namespace Context

/-- The column that stores a member of an entity; what the schema does not know has the name and the
type of the member. -/
def lookUp (c : Context) (entity name : String) (type : HostType) : FieldDef :=
  (c.schema.field? entity name).getD ⟨name, name, (c.schema.tableOf? entity).getD entity, type⟩

/-- The text of a column of an entity. -/
def columnText (c : Context) (entity : String) (f : FieldDef) : String :=
  match c.aliases.qualifier? entity f.table with
  | some qualifier => c.target.dialect.qualifiedColumn qualifier f.column
  | none => c.target.dialect.quoteIdentifier f.column

/-- A column as a fragment. -/
def columnFragment (text : String) (type : HostType) : Fragment :=
  match type.underlying.enumType? with
  | some e => .enumColumn text e
  | none => .sql text

/-- The column that a member access on the query parameter stands for. -/
def column (c : Context) : Expr → Compiled
  | .member target name declaring type =>
    match target.entityOf? declaring with
    | some entity =>
      let f := c.lookUp entity name type
      .ok (columnFragment (c.columnText entity f) f.type)
    | none => .error (.malformed (.unknownEntity (Expr.member target name declaring type).text))
  | e => .error (.malformed (.notMember e.kind))

/-- The condition that a fragment is true. -/
def isTrue (c : Context) (f : Fragment) : String := f.render c.target ++ "=" ++ c.target.trueLiteral

/-- The condition that a column is true. -/
def trueColumn (c : Context) (e : Expr) : Compiled := (c.column e).map fun f => .sql (c.isTrue f)

end Context

end QueryClause
