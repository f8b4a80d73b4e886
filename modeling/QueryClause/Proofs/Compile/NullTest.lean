import QueryClause.Proofs.Compile.Construction
import QueryClause.Proofs.Compile.Folding
import QueryClause.Proofs.Sql.Reference

/-!
# Compiled comparisons with null

Next to SQL, a null is written as a literal (`Target.literal_null`), and what is equal to the null
literal on its right becomes a test for null (`Context.operatorText_equal`).

An expression with the value null is written as a null literal if it compiles to this value, or if
it is the null constant, possibly under conversions (`Expr.isBareNull`).  Any other SQL with the
value null, such as a choice between two nulls, is compared as it is.  The operand on the left is
not looked at: with null there, what is written is a comparison with the null literal, never a test
(`Context.null_tests_iff`).
-/

namespace QueryClause

/-! ### Literals -/

namespace Expr

/-! ### Expressions without a column -/

variable {env : Environment} {e : Expr} {v : Value}

theorem isColumnRooted_eq_false_of_value (h : e.value env = .ok v) : e.isColumnRooted = false := by
  by_contra hroot
  obtain ⟨name, herr⟩ := value_rooted env (Bool.not_eq_false _ ▸ hroot)
  rw [herr] at h
  cases h

end Expr

namespace Context

variable {c : Context} {depth : Nat}

/-! ### What is no null literal -/

variable {l r : String}

theorem operatorText_of_not_null (l : String) (h : ¬ ReadsAsNull r) :
    operatorText .equal l r = "(" ++ l ++ " = " ++ r ++ ")" ∧
      operatorText .notEqual l r = "(" ++ l ++ " <> " ++ r ++ ")" := by
  have hlower : (String.ofList (r.toList.map Char.toLower) == "null") = false :=
    beq_eq_false_iff_ne.2 h
  simp only [operatorText, hlower, Bool.false_eq_true, if_false, and_self]

namespace WritesComparisons

variable {left right : Expr}

end WritesComparisons

end Context

end QueryClause
