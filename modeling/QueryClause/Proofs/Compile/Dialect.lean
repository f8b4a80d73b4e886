import QueryClause.Proofs.Compile.Likeness
import QueryClause.Proofs.Eval.Fresh

/-!
# The dialect of a compilation

The dialect shows in the text of SQL and nowhere else.  Compiled for another target, an expression
succeeds if and only if it did, with a fragment of the same kind, over the same enumeration or with
the same value, and it fails for the same reason, which can differ in the text of a column at most
(`Context.compile_forTarget`).
-/

namespace QueryClause

/-- Both results succeed, with related contents, or both fail alike. -/
inductive SameOutcome {α β : Type} (R : α → β → Prop) :
    Except CompileError α → Except CompileError β → Prop
  | ok {a : α} {b : β} (h : R a b) : SameOutcome R (.ok a) (.ok b)
  | error {e e' : CompileError} (h : e.Alike e') : SameOutcome R (.error e) (.error e')

namespace Likeness

/-- The likeness of results for two dialects: texts may differ. -/
def dialects : Likeness := ⟨False, True, fun _ => False⟩

theorem sameOutcome_of_dialects {x y : Compiled} (h : dialects.Related dialects.Fragments x y) :
    SameOutcome Fragment.Alike x y := by
  cases h with
  | ok h => exact .ok h.alike
  | error h => exact .error h.alike
  | stop h => exact h.elim

end Likeness

namespace Context

/-- The same compilation for another target, before another new identifier. -/
def forTarget (c : Context) (target : Target) (fresh : Guid) : Context :=
  { c with target, env := c.env.withFresh fresh }

variable {c : Context} {target : Target} {fresh : Guid} {e : Expr}

theorem fold_forTarget (h : e.Lacks Expr.isNewGuid) :
    (c.forTarget target fresh).fold e = c.fold e := by
  have hvalue : e.evaluate (c.env.withFresh fresh) c.options.maxDepth =
      e.evaluate c.env c.options.maxDepth := Expr.evaluateAt_withFresh h
  simp only [fold, forTarget, hvalue]

theorem columnFragment_alike (text text' : String) (type : HostType) :
    (columnFragment text type).Alike (columnFragment text' type) := by
  unfold columnFragment
  split
  · exact .enumColumn _ _ _
  · exact .sql _ _

/-- The entity and the type of a column do not depend on the dialect. -/
theorem column_forTarget (h : e.isColumn = true) :
    Likeness.dialects.Related Likeness.dialects.Fragments (c.column e)
      ((c.forTarget target fresh).column e) := by
  cases e with
  | member owner name declaring type =>
    rw [column, column]
    split
    · exact .ok ⟨columnFragment_alike _ _ _, False.elim⟩
    · exact .failed_same rfl
  | _ => cases h

/-- **The dialect changes neither what is computed nor whether an expression compiles.**  Of an
expression that makes no new identifier, the results for two targets are fragments of the same kind,
over the same enumeration or with the same value, or failures of the same kind. -/
theorem compile_forTarget (c : Context) {e : Expr} (hg : e.Lacks Expr.isNewGuid) (target : Target)
    (fresh : Guid) :
    SameOutcome Fragment.Alike (c.compile e) ((c.forTarget target fresh).compile e) := by
  refine Likeness.sameOutcome_of_dialects ?_
  refine compileAt_related ⟨False.elim, False.elim⟩ trivial rfl (fun _ _ => rfl)
    (fun x _ hcolumn => column_forTarget hcolumn) fun x hx => ?_
  rw [fold_forTarget (Expr.Lacks.of_occurs hg hx)]
  exact .refl (fun _ => rfl) fun _ _ _ => trivial

/-- A part of a column's text that starts before the text: the column is written in the failure, in
the quotes of the dialect. -/
theorem compile_forTarget_substring :
    let c := bare .sqlServer
    let e := Expr.callOn pieces "Substring" [.ofValue (.int (-1))] .string
    e.Lacks Expr.isNewGuid ∧
      SameOutcome Fragment.Alike (c.compile e) ((c.forTarget ⟨.mysql, false⟩ .nil).compile e) ∧
      c.compile e = .error (.evaluation (.invalidArgument (.negativePart "Substring"
        (Dialect.sqlServer.quoteIdentifier "Pieces")))) := by
  intro c e
  have hg : e.Lacks Expr.isNewGuid := by decide
  exact ⟨hg, compile_forTarget c hg _ _, rfl⟩

end Context

end QueryClause
