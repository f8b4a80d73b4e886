import QueryClause.Compile.Operator

/-!
# Types that allow null

Whether a type allows null does not show in SQL.  A value is written by what its type is apart from
null (`Target.literal_orNull`), so the operands of an operator are (`Context.operator_orNull`), and
a member is the same column (`Context.column_orNull`).  The column holds the names of an enumeration
exactly if the type apart from null is one (`Context.columnFragment_isEnum`).
-/

namespace QueryClause

theorem Value.underlying_hostType (v : Value) : v.hostType.underlying = v.hostType := by
  cases v <;> rfl

namespace Target

variable (t : Target) (v : Value)

theorem commonLiteral_orNull (type : HostType) :
    t.commonLiteral v type.orNull = t.commonLiteral v type := by
  unfold commonLiteral
  rw [HostType.underlying_orNull]

theorem oracleLiteral_orNull (type : HostType) :
    t.oracleLiteral v type.orNull = t.oracleLiteral v type := by
  unfold oracleLiteral
  simp only [commonLiteral_orNull, HostType.underlying_orNull]

theorem literal_orNull (type : HostType) : t.literal v type.orNull = t.literal v type := by
  unfold literal
  simp only [commonLiteral_orNull, oracleLiteral_orNull]

/-- By the type of null, a value is written as by its own. -/
theorem literal_of_underlying_null {type : HostType} (h : type.underlying = .null) :
    t.literal v type = t.ownLiteral v := by
  have hcommon (v : Value) : t.commonLiteral v type = t.commonLiteral v v.hostType := by
    unfold commonLiteral
    rw [h, v.underlying_hostType]
    cases v <;> rfl
  have horacle (v : Value) : t.oracleLiteral v type = t.oracleLiteral v v.hostType := by
    unfold oracleLiteral
    rw [h, v.underlying_hostType]
    cases v <;> simp only [hcommon] <;> rfl
  unfold ownLiteral literal
  simp only [hcommon, horacle]
  cases t.dialect <;> cases v <;> rfl

end Target

/-- An operand is written as if its type did not allow null. -/
theorem Fragment.renderAs_orNull (f : Fragment) (t : Target) (type : HostType) :
    f.renderAs t type.orNull = f.renderAs t type := by
  cases f with
  | native v =>
    rw [renderAs, renderAs, if_neg type.orNull_ne_null, t.literal_orNull]
    split
    · rename_i htype
      exact t.literal_of_underlying_null v (by rw [htype]; rfl)
    · rfl
  | _ => rfl

namespace Context

variable (c : Context)

theorem operator_orNull (op : BinaryOp) (leftType rightType : HostType) (l r : Fragment) :
    c.operator op leftType.orNull rightType.orNull l r = c.operator op leftType rightType l r := by
  simp only [operator, Fragment.renderAs_orNull]

theorem columnFragment_orNull (text : String) (type : HostType) :
    columnFragment text type.orNull = columnFragment text type := by
  rw [columnFragment, columnFragment, HostType.underlying_orNull]

theorem columnFragment_isEnum (text : String) (type : HostType) :
    (columnFragment text type).enumType?.isSome = type.underlying.isEnum := by
  rw [columnFragment, HostType.isEnum]
  cases type.underlying.enumType? <;> rfl

/-- A member is the same column if its type also allows null. -/
theorem column_orNull (target : Expr) (name : String) (declaring : Option String)
    (type : HostType) :
    c.column (.member target name declaring type.orNull) =
      c.column (.member target name declaring type) := by
  rw [column, column]
  split
  · rename_i entity _
    rw [lookUp, lookUp]
    -- a registered field has a type of its own
    cases c.schema.field? entity name with
    | some f => rfl
    | none => simp only [Option.getD_none, columnText, columnFragment_orNull]
  · rfl

end Context

end QueryClause
