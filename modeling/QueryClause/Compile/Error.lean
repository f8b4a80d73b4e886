import QueryClause.Eval.Error

/-!
# Failures of compilation

`CompileError` lists why an expression does not become SQL; `CompileError.message` words it.
-/

namespace QueryClause

/-- A tree that does not have the shape it needs. -/
inductive Malformed where
  /-- What should be a column is an expression of another kind. -/
  | notMember (kind : String)
  /-- A column whose entity is not known, by its text. -/
  | unknownEntity (text : String)
  /-- A receiver that is no column after all, by its text. -/
  | receiver (method text : String)
  | missingArgument (method column : String) (position : Nat)
  | notInteger (method : String) (position : Nat)
  | missingAlias
  deriving DecidableEq, Repr

/-- Why an expression does not become SQL. -/
inductive CompileError where
  /-- A method that SQL has no counterpart for. -/
  | unsupported (method column : String)
  /-- A part without columns that has no value. -/
  | evaluation (cause : EvalError)
  | malformed (cause : Malformed)
  | depthExceeded (limit : Nat)
  deriving DecidableEq, Repr

namespace Malformed

/-- The wording of the cause. -/
def message : Malformed → String
  | notMember kind => "expected a member access, found " ++ kind
  | unknownEntity text => "cannot resolve the declaring type of '" ++ text ++ "'"
  | receiver method text =>
    "receiver of '" ++ method ++ "' did not compile to a column: " ++ text
  | missingArgument method column position =>
    "'" ++ method ++ "' on " ++ column ++ " is missing argument " ++ Text.ofNat position
  | notInteger method position =>
    "'" ++ method ++ "' argument " ++ Text.ofNat position ++ " must be an integer"
  | missingAlias => "Sql.As requires an alias argument"

end Malformed

namespace CompileError

/-- The wording of the failure. -/
def message : CompileError → String
  | unsupported method column => "Unsupported operation: '" ++ method ++ "' on " ++ column
  | evaluation cause => "Evaluation error: " ++ cause.message
  | malformed cause => "Malformed expression: " ++ cause.message
  | depthExceeded limit => "Expression nesting exceeds the maximum depth of " ++ Text.ofNat limit

/-- The failure of a part that should have had a value; a depth limit stays one. -/
def ofEval : EvalError → CompileError
  | .depthExceeded limit => depthExceeded limit
  | e => evaluation e

end CompileError

end QueryClause
