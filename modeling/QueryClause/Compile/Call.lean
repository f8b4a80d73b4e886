import QueryClause.Compile.Column
import QueryClause.Sql.Pattern

/-!
# Calls in SQL

Three kinds of calls have a counterpart in SQL: the search of a collection for a column, which
becomes `In` (`Context.inList`); methods of texts on a column (`Context.columnMethod`); and the
functions of the type `Sql`, which are there for queries alone (`Helper`).

The compilations of the operands are computations of a monad `m`, and so is `fold`, which computes a
part of an expression.  What is not needed is not done.
-/

namespace QueryClause

variable {m : Type → Type} [Monad m] [MonadExceptOf CompileError m]
  [MonadLiftT (Except CompileError) m]

namespace Context

/-! ### Containment -/

/-- The values that a collection offers; nested lists are opened once. -/
def candidates (v : Value) : List Value :=
  let items := match v with
    | .list items => items
    | .null => []
    | v => [v]
  items.flatMap fun v => match v with
    | .list inner => inner
    | v => [v]

/-- A value in the list that a column is compared with. -/
def candidateText (c : Context) (e : Option EnumType) (v : Value) : String :=
  match e, v with
  | some e, .int n => c.target.literal (.int n) (.enum e)
  | _, v => c.target.ownLiteral v

/-- The condition that a column is among the values of a collection. -/
def inList (c : Context) (values : Value) (column : Fragment) : Fragment :=
  let texts := (candidates values).map (c.candidateText column.enumType?)
  let list := if texts.isEmpty then "NULL" else Text.join "," texts
  .sql (column.render c.target ++ " In (" ++ list ++ ")")

/-- The search of a collection for what `column` compiles to; `e` is the whole expression, which is
computed if that is not SQL. -/
def containmentM (fold : Expr → m Value) (c : Context) (e collection : Expr) (column : m Fragment) :
    m Fragment := do
  let f ← column
  if f.isSql then return c.inList (← fold collection) f else .native <$> fold e

/-! ### Methods of texts on a column -/

/-- The value of an argument. -/
def nativeArg (method column : String) (args : List (m Fragment)) (i : Nat) : m Value :=
  match args[i]? with
  | none => throw (.malformed (.missingArgument method column i))
  | some arg => do
    match ← arg with
    | .native v => return v
    | _ => throw (.unsupported method column)

/-- The integer value of an argument. -/
def intArg (method column : String) (args : List (m Fragment)) (i : Nat) : m Int64 := do
  match (← nativeArg method column args i).asInt? with
  | some n => return n
  | none => throw (.malformed (.notInteger method i))

/-- A part of the text of a column; SQL counts positions from one. -/
def substring (column : String) (start : Int64) (length : Option Int64) :
    Except CompileError String :=
  if start < 0 || length.any (· < 0) then
    .error (.evaluation (.invalidArgument (.negativePart "Substring" column)))
  else if start = Int64.maxValue then .error (.evaluation (.overflow "Substring"))
  else
    let position := Text.ofInt (start.toInt + 1)
    .ok <| match length with
      | some n =>
        "substring(" ++ column ++ " from " ++ position ++ " for " ++ Text.ofInt n.toInt ++ ")"
      | none => "substring(" ++ column ++ " from " ++ position ++ ")"

/-- The condition that a column contains a text at a place. -/
def likeMethod (c : Context) (method : String) (place : LikePlace) (column : String)
    (args : List (m Fragment)) : m String := do
  let v ← nativeArg method column args 0
  return c.target.dialect.like c.options.exactCase column place v.text

/-- A method on the text of a column. -/
def columnMethodText (c : Context) (column method : String) (args : List (m Fragment)) :
    m String :=
  match method with
  | "Trim" => return "ltrim(rtrim(" ++ column ++ "))"
  | "LTrim" => return "ltrim(" ++ column ++ ")"
  | "RTrim" => return "rtrim(" ++ column ++ ")"
  | "ToUpper" => return "upper(" ++ column ++ ")"
  | "ToLower" => return "lower(" ++ column ++ ")"
  | "StartsWith" => c.likeMethod method .start column args
  | "EndsWith" => c.likeMethod method .end column args
  | "Contains" => c.likeMethod method .anywhere column args
  | "Substring" => do
    let start ← intArg method column args 0
    let length ← if args.length ≤ 1 then pure none else some <$> intArg method column args 1
    substring column start length
  | _ => throw (.unsupported method column)

/-- A method on a column; `receiver` is the expression and `column` what it compiles to. -/
def columnMethod (c : Context) (receiver : Expr) (method : String) (column : m Fragment)
    (args : List (m Fragment)) : m Fragment := do
  match ← column with
  | .native _ => throw (.malformed (.receiver method receiver.text))
  | f => return .sql (← c.columnMethodText (f.render c.target) method args)

end Context

/-! ### Functions for queries -/

/-- A function of the type `Sql`. -/
inductive Helper where
  /-- Text around the argument. -/
  | around (before after : String)
  /-- The argument among the other arguments. -/
  | among
  /-- The argument under a new name. -/
  | named
  deriving DecidableEq, Repr

namespace Helper

/-- The function with a name. -/
def ofName? : String → Option Helper
  | "In" => some among
  | "Desc" => some (around "" " DESC")
  | "Count" => some (around "COUNT(" ")")
  | "CountDistinct" => some (around "COUNT(DISTINCT " ")")
  | "Sum" => some (around "SUM(" ")")
  | "Avg" => some (around "AVG(" ")")
  | "Min" => some (around "MIN(" ")")
  | "Max" => some (around "MAX(" ")")
  | "As" => some named
  | _ => none

/-- The text of the first argument; a text of the host is taken as SQL. -/
def argText (c : Context) : Fragment → String
  | .native (.string s) => s
  | f => f.render c.target

/-- Apply a function to what its first argument compiles to and to the other arguments. -/
def applyM (fold : Expr → m Value) (c : Context) (h : Helper) (first : m Fragment)
    (rest : List Expr) : m Fragment := do
  let f ← first
  match h with
  | around before after => return .sql (before ++ argText c f ++ after)
  | among => return c.inList (.list (← rest.mapM fold)) f
  | named =>
    match rest with
    | [] => throw (.malformed .missingAlias)
    | e :: _ =>
      let name := (← fold e).text
      return .sql (argText c f ++ " AS " ++ c.target.dialect.quoteIdentifier name)

end Helper

end QueryClause
