import QueryClause.Expr.Operator
import QueryClause.Host.Type
import QueryClause.Text.Integer
import QueryClause.Number.FloatReading

/-!
# Failures of evaluation

`EvalError` lists why an expression has no value; `EvalError.message` words it.
-/

namespace QueryClause

/-- A use that only a compiled query could give a meaning to. -/
inductive InvalidOperation where
  /-- A lambda with parameters, by its text. -/
  | lambdaAsValue (text : String)
  | freeParameter (name : String)
  /-- The value of a null that could have had one. -/
  | valueOfNull
  /-- A reason given by the environment. -/
  | other (reason : String)
  deriving DecidableEq, Repr

/-- Values whose types do not suit an operation. -/
inductive TypeMismatch where
  /-- An operator that is not defined on a kind of number. -/
  | onNumbers (op : BinaryOp) (numbers : String)
  | notBoolean (op : BinaryOp) (left right : HostType)
  | notComparable (left right : HostType)
  | notIndexable (t : HostType)
  | indexNotInteger
  | undefinedBinary (op : BinaryOp) (left right : HostType)
  | undefinedUnary (op : UnaryOp) (t : HostType)
  | noConversion (source target : HostType)
  /-- Values that a method should have compared. -/
  | methodNotComparable
  | notNumber (t : HostType)
  /-- An operand of a connective in a condition. -/
  | notCondition (t : HostType)
  deriving DecidableEq, Repr

/-- What a null value was used for. -/
inductive NullUse where
  | reading (member : String)
  | calling (method : String)
  deriving DecidableEq, Repr

/-- What is wrong with the arguments of a call or a construction. -/
inductive ArgumentFault where
  | malformedGuid
  | malformedDecimal
  | unrecognizedDateTime
  | malformedInteger (e : IntegerError)
  | malformedFloat (e : FloatError)
  | negativeDigits
  | notComparable
  | ticksNotInteger
  | dateTimeCount
  | dateTimeRange
  | timeSpanCount
  | notString
  | repeatCount
  | notCollection
  deriving DecidableEq, Repr

/-- The type that a method wants an argument to have. -/
inductive ArgumentKind where
  | integer
  | number
  | string
  deriving DecidableEq, Repr

/-- An argument that is not acceptable. -/
inductive InvalidArgument where
  /-- The argument at a position, counted from zero, is missing or of another kind. -/
  | wrongKind (method : String) (kind : ArgumentKind) (position : Nat)
  | inCall (owner method : String) (fault : ArgumentFault)
  | inNew (type : HostType) (fault : ArgumentFault)
  /-- A part of a column's text that starts or ends before the text. -/
  | negativePart (method column : String)
  deriving DecidableEq, Repr

/-- Why an expression has no value. -/
inductive EvalError where
  | invalidOperation (cause : InvalidOperation)
  | unknownMember (owner member : String)
  | unknownMethod (owner method : String)
  | typeMismatch (cause : TypeMismatch)
  | nullReference (use : NullUse)
  | invalidArgument (cause : InvalidArgument)
  | divideByZero
  | overflow (operation : String)
  | depthExceeded (limit : Nat)
  | indexOutOfRange (index : Int64) (length : Nat)
  /-- A failure that the environment reports. -/
  | host (reason : String)
  deriving DecidableEq, Repr

namespace InvalidOperation

/-- The wording of the cause. -/
def message : InvalidOperation → String
  | lambdaAsValue text => "lambda '" ++ text ++ "' cannot be evaluated as a value"
  | freeParameter name => "parameter '" ++ name ++ "' has no value outside a query"
  | valueOfNull => "Nullable object must have a value"
  | other reason => reason

end InvalidOperation

namespace TypeMismatch

/-- The wording of the cause. -/
def message : TypeMismatch → String
  | onNumbers op numbers => op.name ++ " on " ++ numbers
  | notBoolean op left right =>
    op.name ++ " requires boolean operands, got " ++ left.text ++ " and " ++ right.text
  | notComparable left right => "cannot compare " ++ left.text ++ " with " ++ right.text
  | notIndexable t => "cannot index " ++ t.text
  | indexNotInteger => "array index must be an integer"
  | undefinedBinary op left right =>
    "operator " ++ op.name ++ " is not defined for " ++ left.text ++ " and " ++ right.text
  | undefinedUnary op t => op.name ++ " on " ++ t.text
  | noConversion source target => "cannot convert " ++ source.text ++ " to " ++ target.text
  | methodNotComparable => "values are not comparable"
  | notNumber t => "expected a number, got " ++ t.text
  | notCondition t => "logical operand must be boolean, got " ++ t.text

end TypeMismatch

namespace NullUse

/-- The wording of the use. -/
def message : NullUse → String
  | reading member => "reading '" ++ member ++ "'"
  | calling method => "calling '" ++ method ++ "'"

end NullUse

namespace ArgumentFault

/-- The wording of the fault. -/
def message : ArgumentFault → String
  | malformedGuid => "malformed identifier"
  | malformedDecimal => "malformed decimal"
  | unrecognizedDateTime => "unrecognized date/time"
  | malformedInteger e => e.message
  | malformedFloat e => e.message
  | negativeDigits => "digits must be a non-negative integer"
  | notComparable => "arguments are not comparable"
  | ticksNotInteger => "ticks must be an integer"
  | dateTimeCount => "expected 3, 6 or 7 integer arguments"
  | dateTimeRange => "date/time component out of range"
  | timeSpanCount => "unsupported argument count"
  | notString => "expected a string"
  | repeatCount => "count must be a non-negative integer"
  | notCollection => "expected a collection or capacity"

end ArgumentFault

namespace ArgumentKind

/-- The kind with its article. -/
def text : ArgumentKind → String
  | integer => "an integer"
  | number => "a numeric"
  | string => "a string"

end ArgumentKind

namespace InvalidArgument

/-- The wording of the cause. -/
def message : InvalidArgument → String
  | wrongKind method kind position =>
    method ++ " expects " ++ kind.text ++ " argument " ++ Text.ofNat position
  | inCall owner method fault => owner ++ "." ++ method ++ ": " ++ fault.message
  | inNew type fault => "new " ++ type.text ++ ": " ++ fault.message
  | negativePart method column =>
    "'" ++ method ++ "' on " ++ column ++ " needs a non-negative start and length"

end InvalidArgument

namespace EvalError

/-- The wording of the failure. -/
def message : EvalError → String
  | invalidOperation cause => "Invalid operation: " ++ cause.message
  | unknownMember owner member => "Unknown member '" ++ member ++ "' on " ++ owner
  | unknownMethod owner method => "Unknown method '" ++ method ++ "' on " ++ owner
  | typeMismatch cause => "Type mismatch: " ++ cause.message
  | nullReference use => "Null reference: " ++ use.message
  | invalidArgument cause => "Invalid argument: " ++ cause.message
  | divideByZero => "Division by zero"
  | overflow operation => "Arithmetic overflow in " ++ operation
  | depthExceeded limit => "Expression nesting exceeds the maximum depth of " ++ Text.ofNat limit
  | indexOutOfRange index length =>
    "Index " ++ Text.ofInt index.toInt ++ " out of range for length " ++ Text.ofNat length
  | host reason => "Host error: " ++ reason

end EvalError

end QueryClause
