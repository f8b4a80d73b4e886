import QueryClause.Eval.Error
import QueryClause.Host.Value

/-!
# Arguments of a call

The arguments of a call are taken by position, and a missing one is as bad as one of another kind.
-/

namespace QueryClause.Arguments

/-- The argument at a position, if it is of the kind that `view` accepts. -/
def at? {α : Type} (kind : ArgumentKind) (view : Value → Option α) (method : String)
    (args : List Value) (i : Nat) : Except EvalError α :=
  match args[i]?.bind view with
  | some a => .ok a
  | none => .error (.invalidArgument (.wrongKind method kind i))

/-- An integer. -/
def int (method : String) (args : List Value) (i : Nat) : Except EvalError Int64 :=
  at? .integer Value.asInt? method args i

/-- A number. -/
def float (method : String) (args : List Value) (i : Nat) : Except EvalError Float :=
  at? .number Value.asFloat? method args i

/-- A text. -/
def string (method : String) (args : List Value) (i : Nat) : Except EvalError String :=
  at? .string Value.asString? method args i

end QueryClause.Arguments
