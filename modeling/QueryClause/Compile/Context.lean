import QueryClause.Aliases
import QueryClause.Compile.Fragment
import QueryClause.Eval.Evaluate
import QueryClause.Schema

/-!
# The context of a compilation

A `Context` is what stays the same throughout one compilation.  `Context.fold` computes a part of an
expression that does not read the query parameter, and `Context.foldM` does so in a run.
-/

namespace QueryClause

/-- Where the compiled clause goes. -/
inductive Clause where
  /-- A condition. -/
  | predicate
  /-- A list of what to select, or what to order or group by. -/
  | fieldList
  deriving DecidableEq, Repr

/-- The switches of a compiler. -/
structure CompileOptions where
  /-- Search texts in their own letter case. -/
  exactCase : Bool
  maxDepth : Nat
  deriving DecidableEq, Repr

/-- The surroundings of a compilation. -/
structure Context where
  target : Target
  schema : Schema
  aliases : Aliases
  env : Environment
  options : CompileOptions
  clause : Clause

namespace Context

/-- The value of a part of an expression. -/
def fold (c : Context) (e : Expr) : Except CompileError Value :=
  match e.evaluate c.env c.options.maxDepth with
  | .ok v => .ok v
  | .error cause => .error (.ofEval cause)

/-- The value of a part of an expression in a run, where `draw` gives the new identifiers. -/
def foldM {n : Type → Type} [Monad n] (draw : n Guid) (c : Context) (e : Expr) :
    ExceptT CompileError n Value :=
  (e.evaluateM draw c.env c.options.maxDepth).adapt .ofEval

end Context

end QueryClause
