/-!
# Operators

The binary and unary operators of host expressions, with the names and symbols that they are printed
by and their spelling in SQL.
-/

namespace QueryClause

/-- A binary operator. -/
inductive BinaryOp where
  | add
  | subtract
  | multiply
  | divide
  | modulo
  /-- On bits, or on both truth values. -/
  | and
  /-- On truth values; the right one counts only if the left one is true. -/
  | andAlso
  /-- On bits, or on both truth values. -/
  | or
  /-- On truth values; the right one counts only if the left one is false. -/
  | orElse
  | lessThan
  | lessThanOrEqual
  | greaterThan
  | greaterThanOrEqual
  | equal
  | notEqual
  /-- The left operand, or the right one if that is null. -/
  | coalesce
  | arrayIndex
  | shiftLeft
  | shiftRight
  | exclusiveOr
  deriving DecidableEq, Repr

namespace BinaryOp

/-- All binary operators. -/
def all : List BinaryOp :=
  [add, subtract, multiply, divide, modulo, and, andAlso, or, orElse, lessThan, lessThanOrEqual,
   greaterThan, greaterThanOrEqual, equal, notEqual, coalesce, arrayIndex, shiftLeft, shiftRight,
   exclusiveOr]

/-- The name of an operator. -/
def name : BinaryOp → String
  | add => "Add"
  | subtract => "Subtract"
  | multiply => "Multiply"
  | divide => "Divide"
  | modulo => "Modulo"
  | and => "And"
  | andAlso => "AndAlso"
  | or => "Or"
  | orElse => "OrElse"
  | lessThan => "LessThan"
  | lessThanOrEqual => "LessThanOrEqual"
  | greaterThan => "GreaterThan"
  | greaterThanOrEqual => "GreaterThanOrEqual"
  | equal => "Equal"
  | notEqual => "NotEqual"
  | coalesce => "Coalesce"
  | arrayIndex => "ArrayIndex"
  | shiftLeft => "BitShiftLeft"
  | shiftRight => "BitShiftRight"
  | exclusiveOr => "ExclusiveOr"

/-- The operator with a name. -/
def ofName? (s : String) : Option BinaryOp := all.find? fun op => op.name == s

/-- The symbol in the text of an expression. -/
def symbol : BinaryOp → String
  | add => "+"
  | subtract => "-"
  | multiply => "*"
  | divide => "/"
  | modulo => "%"
  | and => "&"
  | andAlso => "&&"
  | or => "|"
  | orElse => "||"
  | lessThan => "<"
  | lessThanOrEqual => "<="
  | greaterThan => ">"
  | greaterThanOrEqual => ">="
  | equal => "=="
  | notEqual => "!="
  | coalesce => "??"
  | arrayIndex => "[]"
  | shiftLeft => "<<"
  | shiftRight => ">>"
  | exclusiveOr => "^"

/-- The spelling in SQL; an operator that SQL does not have goes by its name. -/
def sqlToken : BinaryOp → String
  | equal => "="
  | notEqual => "<>"
  | greaterThan => ">"
  | greaterThanOrEqual => ">="
  | lessThan => "<"
  | lessThanOrEqual => "<="
  | andAlso => "AND"
  | orElse => "OR"
  | add => "+"
  | subtract => "-"
  | multiply => "*"
  | divide => "/"
  | modulo => "MOD"
  | coalesce => "COALESCE"
  | op => op.name

/-- Whether the operator compares. -/
def isComparison : BinaryOp → Bool
  | lessThan | lessThanOrEqual | greaterThan | greaterThanOrEqual | equal | notEqual => true
  | _ => false

/-- Whether the operator is one of the two connectives that SQL has too. -/
def isLogical : BinaryOp → Bool
  | andAlso | orElse => true
  | _ => false

end BinaryOp

/-- A unary operator. -/
inductive UnaryOp where
  | not
  | negate
  /-- Change of type; fails if there is no way. -/
  | convert
  | arrayLength
  /-- An expression as such. -/
  | quote
  /-- Change of type; null if there is no way. -/
  | typeAs
  deriving DecidableEq, Repr

namespace UnaryOp

/-- All unary operators. -/
def all : List UnaryOp := [not, negate, convert, arrayLength, quote, typeAs]

/-- The name of an operator. -/
def name : UnaryOp → String
  | not => "Not"
  | negate => "Negate"
  | convert => "Convert"
  | arrayLength => "ArrayLength"
  | quote => "Quote"
  | typeAs => "TypeAs"

/-- The operator with a name. -/
def ofName? (s : String) : Option UnaryOp := all.find? fun op => op.name == s

end UnaryOp

end QueryClause
