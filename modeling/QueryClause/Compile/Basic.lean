import QueryClause.Compile.Call
import QueryClause.Compile.Operator

/-!
# Compilation of expressions

`Context.compileM` turns an expression into a fragment.  Parts that do not read the query parameter
are computed; the rest becomes SQL.  Where a part is computed is up to `fold`, and it matters, since
a part can ask for new identifiers: `Context.compile` is the compilation in which one identifier
answers all calls for a new one, and `Context.compileFrom` takes them from a supply.
-/

namespace QueryClause.Context

section

variable {m : Type → Type} [Monad m] [MonadExceptOf CompileError m]
  [MonadLiftT (Except CompileError) m]

/-- The texts of compiled parts with the types of their expressions, up to the first failure. -/
def partTexts (c : Context) : List (HostType × m Fragment) → m (List String)
  | [] => return []
  | (type, f) :: rest => do
    let text := (← f).renderAs c.target type
    return text :: (← c.partTexts rest)

/-- The construction of an object or a list: computed, or else the list of its parts if the reason
is that it reads the query parameter. -/
def constructionM (fold : Expr → m Value) (c : Context) (e : Expr)
    (parts : Unit → List (HostType × m Fragment)) : m Fragment :=
  tryCatch (.native <$> fold e) fun
    | .evaluation (.invalidOperation _) => do
      return .sql (Text.join "," (← c.partTexts (parts ())))
    | cause => throw cause

mutual

/-- The fragment for an expression at a depth, where `fold` computes parts. -/
def compileAtM (fold : Expr → m Value) (c : Context) (depth : Nat) (e : Expr) : m Fragment :=
  if c.options.maxDepth < depth then throw (.depthExceeded c.options.maxDepth)
  else
    match e with
    | .lambda _ body =>
      if depth = 0 && c.clause = .predicate && body.isColumn then c.trueColumn body
      else compileAtM fold c (depth + 1) body
    | .member target name declaring type =>
      let e := Expr.member target name declaring type
      if e.isColumn then c.column e else .native <$> fold e
    | .staticMember owner name type => .native <$> fold (.staticMember owner name type)
    | .constant v type =>
      if v.isNull then return .sql "null" else .native <$> fold (.constant v type)
    | .parameter name _ => return .sql name
    | .binary op left right =>
      if op.isLogical then do
        let l ← if left.isColumn then c.trueColumn left else compileAtM fold c (depth + 1) left
        let r ← if right.isColumn then c.trueColumn right else compileAtM fold c (depth + 1) right
        c.connectiveM fold (.binary op left right) op l r
      else do
        let l ← compileAtM fold c (depth + 1) left
        let r ← compileAtM fold c (depth + 1) right
        c.operator op left.staticType right.staticType l r
    | .unary op operand type via =>
      if op = .convert && via.isSome then .native <$> fold (.unary op operand type via)
      else do
        c.unaryOperator op type operand.isColumn (← compileAtM fold c (depth + 1) operand)
    | .call target method args owner type =>
      let e := Expr.call target method args owner type
      match method, args, owner.isEnumerable with
      | "Contains", [column], true =>
        c.containmentM fold e target (compileAtM fold c (depth + 1) column)
      | method, args, _ =>
        if target.isColumnRooted then
          c.columnMethod target method (compileAtM fold c (depth + 1) target)
            (compileAllM fold c (depth + 1) args)
        else .native <$> fold e
    | .staticCall owner method args type =>
      let e := Expr.staticCall owner method args type
      match if owner = .object "Sql" then Helper.ofName? method else none, args with
      | some h, first :: rest => h.applyM fold c (compileAtM fold c (depth + 1) first) rest
      | _, [collection, column] =>
        if method = "Contains" then
          c.containmentM fold e collection (compileAtM fold c (depth + 1) column)
        else .native <$> fold e
      | _, _ => .native <$> fold e
    | .new type args members =>
      c.constructionM fold (.new type args members) fun _ => compilePartsM fold c (depth + 1) args
    | .newArray itemType items =>
      c.constructionM fold (.newArray itemType items) fun _ =>
        compilePartsM fold c (depth + 1) items
    | .memberInit type bindings =>
      c.constructionM fold (.memberInit type bindings) fun _ =>
        compileBindingsM fold c (depth + 1) bindings

/-- The fragments for some expressions. -/
def compileAllM (fold : Expr → m Value) (c : Context) (depth : Nat) : List Expr → List (m Fragment)
  | [] => []
  | e :: rest => compileAtM fold c depth e :: compileAllM fold c depth rest

/-- The fragments for the parts of a construction, with their types. -/
def compilePartsM (fold : Expr → m Value) (c : Context) (depth : Nat) :
    List Expr → List (HostType × m Fragment)
  | [] => []
  | e :: rest => (e.staticType, compileAtM fold c depth e) :: compilePartsM fold c depth rest

/-- The fragments for the bindings of an object, with their types. -/
def compileBindingsM (fold : Expr → m Value) (c : Context) (depth : Nat) :
    List (String × Expr) → List (HostType × m Fragment)
  | [] => []
  | (_, e) :: rest =>
    (e.staticType, compileAtM fold c depth e) :: compileBindingsM fold c depth rest

end

end

/-! ### One identifier -/

/-- The fragment for an expression at a depth. -/
def compileAt (c : Context) (depth : Nat) (e : Expr) : Compiled := c.compileAtM c.fold depth e

/-- The fragment for an expression. -/
def compile (c : Context) (e : Expr) : Compiled := c.compileAt 0 e

/-- The SQL for an expression. -/
def sql (c : Context) (e : Expr) : Except CompileError String :=
  (c.compile e).map (Fragment.render c.target)

/-! ### Runs -/

/-- The fragment for an expression in a run, where `draw` gives the new identifiers. -/
def compileM {n : Type → Type} [Monad n] (draw : n Guid) (c : Context) (e : Expr) :
    ExceptT CompileError n Fragment :=
  c.compileAtM (c.foldM draw) 0 e

/-- The fragment for an expression, and what is left of a supply of new identifiers. -/
def compileFrom (c : Context) (s : Supply) (e : Expr) : Compiled × Supply :=
  s.run (c.compileM Supply.next e)

end QueryClause.Context
