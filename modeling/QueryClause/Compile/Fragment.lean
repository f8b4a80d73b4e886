import QueryClause.Compile.Error
import QueryClause.Sql.Literal

/-!
# Fragments

A `Fragment` is what a part of an expression compiles to: SQL, or a value that has not been written
yet, so that it can still be computed with or written by the type that its neighbours ask for.
-/

namespace QueryClause

/-- A compiled part of an expression. -/
inductive Fragment where
  | sql (text : String)
  /-- A column that holds the names of enumeration members. -/
  | enumColumn (text : String) (e : EnumType)
  | native (v : Value)
  deriving Repr, Inhabited

namespace Fragment

/-- Whether the fragment is SQL. -/
def isSql : Fragment → Bool
  | native _ => false
  | _ => true

/-- The enumeration whose names a column holds. -/
def enumType? : Fragment → Option EnumType
  | enumColumn _ e => some e
  | _ => none

/-- The SQL of a fragment; a value is written by its own type. -/
def render (t : Target) : Fragment → String
  | sql text => text
  | enumColumn text _ => text
  | native v => t.ownLiteral v

/-- The SQL of a fragment that stands for an expression of a type; a value is written by that type,
or by its own if the type is null's. -/
def renderAs (t : Target) (type : HostType) : Fragment → String
  | native v => t.literal v (if type = .null then v.hostType else type)
  | f => f.render t

end Fragment

/-- What compiling a part of an expression gives. -/
abbrev Compiled := Except CompileError Fragment

/-- The value of an operator on values, as a fragment. -/
def Compiled.ofValue (r : Except EvalError Value) : Compiled :=
  match r with
  | .ok v => .ok (.native v)
  | .error e => .error (.evaluation e)

end QueryClause
