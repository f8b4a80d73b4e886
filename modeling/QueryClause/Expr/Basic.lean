import QueryClause.Expr.Operator
import QueryClause.Host.Value

/-!
# Host expressions

An `Expr` is the tree of a host expression: typically a lambda whose parameter is a row of a table
and whose body is the condition to compile.  A member access or a call either has a target, which is
an expression, or belongs to a type.

The functions in this file that are named after an operator build a node from its parts and fill in
what follows from them; `Expr.staticType` is the type that a node is known to have.
-/

namespace QueryClause

/-- A parameter of a lambda. -/
structure Param where
  name : String
  type : HostType
  deriving DecidableEq, Repr

/-- A host expression. -/
inductive Expr where
  | lambda (params : List Param) (body : Expr)
  /-- A member of an object; `declaring` names the type that it belongs to. -/
  | member (target : Expr) (name : String) (declaring : Option String) (type : HostType)
  /-- A member of a type. -/
  | staticMember (owner : Option String) (name : String) (type : HostType)
  | constant (v : Value) (type : HostType)
  | binary (op : BinaryOp) (left right : Expr)
  /-- A unary operator with its result type; `via` names a conversion function. -/
  | unary (op : UnaryOp) (operand : Expr) (type : HostType) (via : Option String)
  | parameter (name : String) (type : HostType)
  /-- A method of an object. -/
  | call (target : Expr) (method : String) (args : List Expr) (owner type : HostType)
  /-- A method of a type. -/
  | staticCall (owner : HostType) (method : String) (args : List Expr) (type : HostType)
  /-- A constructor call; `members` names the fields of an object without a class. -/
  | new (type : HostType) (args : List Expr) (members : List String)
  | newArray (itemType : HostType) (items : List Expr)
  /-- An object with values for some of its members. -/
  | memberInit (type : HostType) (bindings : List (String × Expr))
  deriving Repr, Inhabited

namespace Expr

/-- The type that a node is known to have. -/
def staticType : Expr → HostType
  | lambda _ body => body.staticType
  | member _ _ _ type => type
  | staticMember _ _ type => type
  | constant _ type => type
  | binary op left right =>
    if op.isComparison || op.isLogical then .bool
    else
      match op with
      | .coalesce => right.staticType
      | .arrayIndex => left.staticType.itemType?.getD .null
      | _ => left.staticType
  | unary op operand type _ =>
    match op with
    | .convert | .typeAs => type
    | .arrayLength => .int .int32
    | .not | .negate | .quote => operand.staticType
  | parameter _ type => type
  | call _ _ _ _ type => type
  | staticCall _ _ _ type => type
  | new type _ _ => type
  | newArray itemType _ => .array itemType
  | memberInit type _ => type

/-- The name of the kind of a node. -/
def kind : Expr → String
  | lambda .. => "Lambda"
  | member .. | staticMember .. => "MemberAccess"
  | constant .. => "Constant"
  | binary .. => "Binary"
  | unary .. => "Unary"
  | parameter .. => "Parameter"
  | call .. | staticCall .. => "MethodCall"
  | new .. => "New"
  | newArray .. => "NewArray"
  | memberInit .. => "MemberInit"

/-! ### Building -/

/-- A constant of the type of its value. -/
def ofValue (v : Value) : Expr := constant v v.hostType

/-- The null literal. -/
def nullLiteral : Expr := constant .null .null

/-- A member of an object, declared by the type of the object. -/
def memberOf (target : Expr) (name : String) (type : HostType) : Expr :=
  member target name target.staticType.entityName? type

/-- A method of an object, owned by the type of the object. -/
def callOn (target : Expr) (method : String) (args : List Expr) (type : HostType) : Expr :=
  call target method args target.staticType type

/-- The opposite truth value. -/
def negation (e : Expr) : Expr := unary .not e .bool none

/-- The opposite number. -/
def negative (e : Expr) : Expr := unary .negate e e.staticType none

/-- A change of type. -/
def convertTo (e : Expr) (type : HostType) : Expr := unary .convert e type none

end Expr

end QueryClause
