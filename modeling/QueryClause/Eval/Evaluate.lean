import QueryClause.Eval.Construct
import QueryClause.Eval.Environment
import QueryClause.Eval.Member
import QueryClause.Eval.Method
import QueryClause.Eval.Operate
import QueryClause.Eval.Supply
import QueryClause.Expr.Text

/-!
# Evaluation

`Expr.evaluate` is an interpreter for expressions that do not read a query parameter.  Operands and
arguments are evaluated from left to right, the two connectives and the choice of a value that is
not null leave out a right operand that does not count, and a node deeper than the limit fails.
-/

namespace QueryClause

/-- Read through a node of an enumeration type, an integer is a constant of the enumeration. -/
def Value.tagged (v : Value) (type : HostType) : Value :=
  match type.underlying.enumType?, v with
  | some e, .int n => .enum e n
  | _, v => v

namespace Expr

/-- The value of an operator from its left operand alone. -/
def shortCircuit? (op : BinaryOp) (left : Value) : Option Value :=
  match op, left with
  | .andAlso, .bool false => some (.bool false)
  | .orElse, .bool true => some (.bool true)
  | .coalesce, v => if v.isNull then none else some v
  | _, _ => none

/-- The value of an operator from both operands, where the left one did not decide. -/
def operate (op : BinaryOp) (left right : Value) : Except EvalError Value :=
  match op with
  | .andAlso | .orElse =>
    match left.asBool?, right.asBool? with
    | some _, some b => .ok (.bool b)
    | _, _ => .error (.typeMismatch (.notBoolean op left.hostType right.hostType))
  | op => op.apply left right

/-- Apply a unary operator; a conversion by name is tried in the environment first. -/
def operateUnary (env : Environment) (op : UnaryOp) (v : Value) (type : HostType)
    (via : Option String) : Except EvalError Value :=
  match op, via with
  | .convert, some f => (env.callMethod type none f [v]).getD (op.apply v type)
  | op, _ => op.apply v type

/-- A member of a type: built in, or from the environment. -/
def readStatic (env : Environment) (owner : Option String) (name : String) (type : HostType) :
    Except EvalError Value :=
  let owner := owner.getD ""
  match staticMember? owner name type with
  | some v => .ok v
  | none => (env.staticMember owner name).getD (.error (.unknownMember owner name))

/-- Call a method: built in, or from the environment. -/
def invoke (env : Environment) (owner : HostType) (target : Option Value) (method : String)
    (args : List Value) : Except EvalError Value :=
  ((callMethod? env.freshGuid owner target method args).or
    (env.callMethod owner target method args)).getD (.error (.unknownMethod owner.text method))

/-- Construct an object: by the environment, or built in. -/
def construct (env : Environment) (type : HostType) (members : List String) (args : List Value) :
    Except EvalError Value :=
  ((env.construct type args).or (constructValue? type members args)).getD
    (.error (.unknownMethod type.text ".ctor"))

/-! ### Runs

New identifiers come from outside.  A run takes place in a monad `n`, where `draw` gives the next
one; it draws when a call asks for it, and each call has one of its own. -/

section Runs

variable {n : Type → Type} [Monad n]

/-- Call a function of a type in a run. -/
def invokeM (draw : n Guid) (env : Environment) (owner : HostType) (method : String)
    (args : List Value) : ExceptT EvalError n Value := do
  if asksForGuid owner method args then invoke (env.withFresh (← draw)) owner none method args
  else invoke env owner none method args

mutual

/-- Evaluate an expression at a depth in a run. -/
def evaluateAtM (draw : n Guid) (env : Environment) (limit depth : Nat) (e : Expr) :
    ExceptT EvalError n Value :=
  if limit < depth then throw (.depthExceeded limit)
  else
    match e with
    | lambda params body =>
      if params.isEmpty then evaluateAtM draw env limit (depth + 1) body
      else throw (.invalidOperation (.lambdaAsValue (lambda params body).text))
    | constant v type => return v.tagged type
    | parameter name _ => throw (.invalidOperation (.freeParameter name))
    | member target name _ type => do
      let owner ← evaluateAtM draw env limit (depth + 1) target
      return (← owner.readMember name).tagged type
    | staticMember owner name type => do return (← readStatic env owner name type).tagged type
    | binary op left right => do
      let a ← evaluateAtM draw env limit (depth + 1) left
      match shortCircuit? op a with
      | some v => return v
      | none => operate op a (← evaluateAtM draw env limit (depth + 1) right)
    | unary op operand type via => do
      operateUnary env op (← evaluateAtM draw env limit (depth + 1) operand) type via
    | call target method args owner type => do
      let receiver ← evaluateAtM draw env limit (depth + 1) target
      let args ← evaluateItemsM draw env limit (depth + 1) args
      return (← invoke env owner (some receiver) method args).tagged type
    | staticCall owner method args type => do
      let args ← evaluateItemsM draw env limit (depth + 1) args
      return (← invokeM draw env owner method args).tagged type
    | new type args members => do
      construct env type members (← evaluateItemsM draw env limit (depth + 1) args)
    | newArray _ items => do return .list (← evaluateItemsM draw env limit (depth + 1) items)
    | memberInit type bindings => do
      return .object type.text (← evaluateBindingsM draw env limit (depth + 1) bindings)

/-- Evaluate some expressions, from left to right. -/
def evaluateItemsM (draw : n Guid) (env : Environment) (limit depth : Nat) :
    List Expr → ExceptT EvalError n (List Value)
  | [] => return []
  | e :: rest => do
    let v ← evaluateAtM draw env limit depth e
    return v :: (← evaluateItemsM draw env limit depth rest)

/-- Evaluate the bindings of an object, from left to right. -/
def evaluateBindingsM (draw : n Guid) (env : Environment) (limit depth : Nat) :
    List (String × Expr) → ExceptT EvalError n (List (String × Value))
  | [] => return []
  | (name, e) :: rest => do
    let v ← evaluateAtM draw env limit depth e
    return (name, v) :: (← evaluateBindingsM draw env limit depth rest)

end

/-- Evaluate an expression in a run. -/
def evaluateM (draw : n Guid) (env : Environment) (limit : Nat) (e : Expr) :
    ExceptT EvalError n Value :=
  evaluateAtM draw env limit 0 e

end Runs

/-! ### Runs with one identifier -/

/-- The value of an expression at a depth, where the environment answers every call for a new
identifier with its own. -/
def evaluateAt (env : Environment) (limit depth : Nat) (e : Expr) : Except EvalError Value :=
  evaluateAtM (n := Id) env.freshGuid env limit depth e

/-- The depth that evaluation goes to where nothing else is said. -/
def defaultMaxDepth : Nat := 256

/-- The value of an expression. -/
def evaluate (env : Environment) (limit : Nat) (e : Expr) : Except EvalError Value :=
  evaluateAt env limit 0 e

end Expr

end QueryClause
