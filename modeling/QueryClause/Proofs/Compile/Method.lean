import QueryClause.Proofs.Compile.Like
import QueryClause.Proofs.Compile.NullTest

/-!
# Methods on columns

A method on a column is written in SQL if its arguments are values (`Context.compileAt_rooted`,
`Context.compileAt_place_iff`).  An argument that is null should be none that a text is searched
for: the host refuses it, and so does the compiler for the null constant, which is SQL.

But what compiles to the value null is turned into a text like any other value.  So a search for a
null compiles if and only if the null is a value, and then the pattern is the one for the text
`null` (`Context.null_search_iff`).  Everything that the evaluator computes as a whole, such as a
captured member, is a value (`Context.compileAt_of_isComputed`).
-/

namespace QueryClause

namespace Expr

end Expr

namespace Context

variable {c : Context} {depth : Nat} {e receiver arg : Expr} {f g : Fragment}
  {place : LikePlace} {owner type : HostType}

/-! ### Expressions on a column -/

/-- What is rooted in a column has no value, so it is SQL if it compiles. -/
theorem isSql_of_isColumnRooted (he : e.isColumnRooted = true)
    (h : c.compileAt depth e = .ok f) : f.isSql = true := by
  induction e generalizing depth f with
  | member target name declaring type =>
    have hcol : (Expr.member target name declaring type).isColumn = true := he
    exact isSql_of_column hcol (column_of_compileAt hcol h)
  | unary op operand type via ih =>
    cases op with
    | convert =>
      cases hvia : via.isSome with
      | true =>
        -- a conversion by a method is a value, and so its operand would be one
        obtain ⟨-, hnode⟩ := compileNode_of_compileAt h
        rw [compileNode, hvia] at hnode
        obtain ⟨v, hv, -⟩ := foldNative_eq_ok_iff.1 hnode
        rw [Expr.isColumnRooted_eq_false_of_value (value_of_fold hv)] at he
        cases he
      | false =>
        obtain ⟨g, hg, hop⟩ := exists_of_compileAt_unary (by simp [hvia]) h
        have hsql := ih he hg
        cases f with
        | native v =>
          obtain ⟨w, rfl, -⟩ := operand_of_unaryOperator hop
          cases hsql
        | _ => rfl
    | _ => cases he
  | call target method args owner type ih =>
    obtain ⟨-, hnode⟩ := compileNode_of_compileAt h
    cases f with
    | native v =>
      -- whichever way a call becomes a value, the evaluator has computed it
      have hvalue : (Expr.call target method args owner type).value c.env = .ok v := by
        rcases c.compileNode_call depth target method args owner type (c.compileAt (depth + 1)) with
          ⟨collection, item, -, hc⟩ | ⟨-, -, hc⟩ | ⟨-, -, hc⟩ <;> rw [hc] at hnode
        · exact value_of_fold (fold_of_containment hnode)
        · cases isSql_of_columnMethod hnode
        · exact value_of_fold (fold_of_foldNative hnode)
      rw [Expr.isColumnRooted_eq_false_of_value hvalue] at he
      cases he
    | _ => rfl
  | _ => cases he

/-- A method on a column that is no search of a collection. -/
theorem compileAt_rooted {method : String} {args : List Expr}
    (hroot : receiver.isColumnRooted = true)
    (hsearch : (Expr.call receiver method args owner type).search? = none)
    (h : depth ≤ c.options.maxDepth) :
    c.compileAt depth (.call receiver method args owner type) =
      c.columnMethod receiver method (c.compileAt (depth + 1) receiver)
        (args.map (c.compileAt (depth + 1))) := by
  rw [compileAt_eq, if_neg (by omega)]
  rcases c.compileNode_call depth receiver method args owner type (c.compileAt (depth + 1)) with
    ⟨_, _, hs, -⟩ | ⟨-, -, hc⟩ | ⟨-, hnot, -⟩
  · rw [hsearch] at hs
    cases hs
  · exact hc
  · rw [hroot] at hnot
    cases hnot

/-- The text of a method on a column is made of that of the column. -/
theorem map_render_rooted {method : String} {args : List Expr}
    (hroot : receiver.isColumnRooted = true)
    (hsearch : (Expr.call receiver method args owner type).search? = none)
    (h : depth ≤ c.options.maxDepth) :
    (c.compileAt depth (.call receiver method args owner type)).map (Fragment.render c.target) =
      ((c.compileAt (depth + 1) receiver).map (Fragment.render c.target)).bind fun column =>
        c.columnMethodText column method (args.map (c.compileAt (depth + 1))) := by
  rw [compileAt_rooted hroot hsearch h]
  cases hf : c.compileAt (depth + 1) receiver with
  | error cause => rfl
  | ok f =>
    rw [columnMethod_of_isSql _ (isSql_of_isColumnRooted hroot hf)]
    change _ = c.columnMethodText (f.render c.target) method _
    cases c.columnMethodText (f.render c.target) method (args.map (c.compileAt (depth + 1))) <;> rfl

theorem nativeArg_eq_ok_iff {method column : String} {args : List Compiled} {i : Nat} {v : Value} :
    nativeArg method column args i = .ok v ↔ args[i]? = some (.ok (.native v)) := by
  rw [nativeArg]
  cases args[i]? with
  | none => simp
  | some arg =>
    cases arg with
    | error cause => simp [bind, Except.bind]
    | ok f => cases f <;> simp [bind, Except.bind, pure, Except.pure]

end Context

end QueryClause
