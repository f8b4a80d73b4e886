import QueryClause.Proofs.Compile.Likeness
import QueryClause.Proofs.Eval.Limit

/-!
# The depth limit of a compilation

A limit guards two descents: that of compilation, and that of evaluation, which starts again at
depth zero for every part that is computed (`Context.fold_limited`).  A construction goes on after
some failures of evaluation, but not after that of a limit, so a limit never makes compilation take
another way.  Beside a higher limit, it gives the same result, or it is too low for the expression
and compilation fails for it (`Context.compileAt_limited`, `Context.compile_limit`).
-/

namespace QueryClause

open Except (Limited)

namespace Likeness

/-- The likeness of results under a limit and under a higher one: they are the same, for another
reason than a limit if they fail, or the first limit is too low. -/
def underLimit (limit : Nat) (low : Prop) : Likeness := ⟨True, False, fun n => n = limit ∧ low⟩

theorem underLimit_related_iff {limit : Nat} {low : Prop} {α : Type} {R : α → α → Prop}
    {x y : Except CompileError α} (hR : ∀ a b, R a b ↔ a = b) :
    (underLimit limit low).Related R x y ↔ Limited CompileError.depthExceeded limit low x y := by
  constructor
  · intro h
    cases h with
    | ok h => exact .inl ⟨Except.avoids_ok _, congrArg Except.ok ((hR _ _).1 h)⟩
    | error h =>
      obtain rfl := h.same trivial
      exact .of_avoids (Except.avoids_error_iff.2 fun n hn => h.limit (hn ▸ rfl))
    | stop h => exact h.1 ▸ .inr ⟨h.2, rfl⟩
  · rintro (⟨havoid, rfl⟩ | ⟨hlow, rfl⟩)
    · refine .refl (fun a => (hR a a).2 rfl) fun e he hlimit => ?_
      cases e with
      | depthExceeded n => exact havoid n he
      | _ => cases hlimit
    · exact .stop ⟨rfl, hlow⟩

theorem underLimit_fragments_iff {limit : Nat} {low : Prop} (f f' : Fragment) :
    (underLimit limit low).Fragments f f' ↔ f = f' :=
  ⟨fun h => h.same trivial, fun h => h ▸ .refl f⟩

end Likeness

namespace Context

/-- The same compilation under a limit, without a host and before some new identifier. -/
def limited (c : Context) (limit : Nat) (fresh : Guid) : Context :=
  { c with env := .none fresh, options := { c.options with maxDepth := limit } }

@[simp] theorem maxDepth_limited (c : Context) (limit : Nat) (fresh : Guid) :
    (c.limited limit fresh).options.maxDepth = limit := rfl

variable {c : Context} {limit limit' depth : Nat} {fresh fresh' : Guid} {low : Prop} {e : Expr}

/-! ### What is computed -/

theorem avoids_fold
    (h : (e.evaluate c.env c.options.maxDepth).Avoids EvalError.depthExceeded) :
    (c.fold e).Avoids CompileError.depthExceeded := by
  unfold fold
  split
  · exact Except.avoids_ok _
  · rename_i cause hcause
    cases cause with
    | depthExceeded n => exact absurd hcause (h n)
    | _ => simp [CompileError.ofEval]

theorem fold_limited (hg : e.Lacks Expr.isNewGuid) (hle : limit ≤ limit') :
    Limited CompileError.depthExceeded limit (limit < e.height) ((c.limited limit fresh).fold e)
      ((c.limited limit' fresh').fold e) := by
  have h : Limited EvalError.depthExceeded limit (limit < 0 + e.height)
      (e.evaluate (.none fresh) limit) (e.evaluate (.none fresh') limit') :=
    Expr.evaluateAt_limited fresh' hg hle
  -- the failure of the evaluator for its limit is the one of the compiler
  rcases h with ⟨havoid, heq⟩ | ⟨hlow, hfail⟩
  · exact .inl ⟨avoids_fold havoid, by simp only [fold, limited, heq]⟩
  · exact .inr ⟨by omega, by simp only [fold, limited, hfail, CompileError.ofEval]⟩

/-- Columns are written without a look at the limit. -/
theorem column_limited (h : e.isColumn = true) :
    Limited CompileError.depthExceeded limit low ((c.limited limit fresh).column e)
      ((c.limited limit' fresh').column e) := by
  cases e with
  | member owner name declaring type =>
    rw [column, column]
    split
    · exact .of_avoids (Except.avoids_ok _)
    · exact .of_avoids (by simp)
  | _ => cases h

/-! ### Expressions -/

/-- Beside compilation under a higher limit, compilation gives the same result, which is no failure
of a limit, or the limit was too low for the expression and it fails for it. -/
theorem compileAt_limited (hg : e.Lacks Expr.isNewGuid) (hle : limit ≤ limit') :
    Limited CompileError.depthExceeded limit (limit < depth + e.height)
      ((c.limited limit fresh).compileAt depth e)
      ((c.limited limit' fresh').compileAt depth e) := by
  induction e using Expr.induction_children generalizing depth with
  | step e ih =>
    rw [compileAt_eq, compileAt_eq, maxDepth_limited, maxDepth_limited]
    by_cases hdepth : limit < depth
    · rw [if_pos hdepth]
      exact .inr ⟨by omega, rfl⟩
    · rw [if_neg hdepth, if_neg (by omega),
        ← Likeness.underLimit_related_iff Likeness.underLimit_fragments_iff]
      refine compileNode_related ⟨fun _ => rfl, fun _ => rfl⟩ (fun _ _ => rfl)
        (fun x _ hcol => ?_) (fun x hx => ?_) fun x hx => ?_
      · exact (Likeness.underLimit_related_iff Likeness.underLimit_fragments_iff).2
          (column_limited hcol)
      -- a part is computed from depth zero on, so a limit too low for it is too low here
      · rw [Likeness.underLimit_related_iff fun _ _ => Iff.rfl]
        rcases List.mem_cons.1 hx with rfl | hx
        · exact (fold_limited hg hle).mono fun h => by omega
        · refine (fold_limited (hg.child hx) hle).mono fun h => ?_
          have := Expr.height_lt_of_child hx
          omega
      · rw [Likeness.underLimit_related_iff Likeness.underLimit_fragments_iff]
        refine (ih x hx (hg.child hx)).mono fun h => ?_
        have := Expr.height_lt_of_child hx
        omega

/-- **A depth limit only ever turns a result into its failure.**  What an expression compiles to
under a limit, or why it fails if not for the limit, is the same under all higher limits, and a
limit of at least the height of the expression never fails.  So it is with the value of the
expression. -/
theorem compile_limit (c : Context) (hg : e.Lacks Expr.isNewGuid) (hle : limit ≤ limit')
    (fresh fresh' : Guid) :
    (((c.limited limit fresh).compile e).Avoids CompileError.depthExceeded →
      (c.limited limit' fresh').compile e = (c.limited limit fresh).compile e) ∧
    (e.height ≤ limit → ((c.limited limit fresh).compile e).Avoids CompileError.depthExceeded) ∧
    ((e.evaluate (.none fresh) limit).Avoids EvalError.depthExceeded →
      e.evaluate (.none fresh') limit' = e.evaluate (.none fresh) limit) ∧
    (e.height ≤ limit → (e.evaluate (.none fresh) limit).Avoids EvalError.depthExceeded) := by
  have hcompile : Limited CompileError.depthExceeded limit (limit < 0 + e.height)
      ((c.limited limit fresh).compile e) ((c.limited limit' fresh').compile e) :=
    compileAt_limited hg hle
  have hevaluate : Limited EvalError.depthExceeded limit (limit < 0 + e.height)
      (e.evaluate (.none fresh) limit) (e.evaluate (.none fresh') limit') :=
    Expr.evaluateAt_limited fresh' hg hle
  exact ⟨fun h => (hcompile.eq h).symm, fun h => hcompile.avoids (by omega),
    fun h => (hevaluate.eq h).symm, fun h => hevaluate.avoids (by omega)⟩

/-- A comparison of a column compiles under a limit below its height, as a column is not taken
apart, and under every higher limit. -/
theorem compile_limit_pieces :
    let c := bare .oracle
    let e := Expr.binary .greaterThan pieces (.ofValue (.int 3))
    (e.Lacks Expr.isNewGuid ∧ e.height = 2 ∧
      ((c.limited 1 .nil).compile e).Avoids CompileError.depthExceeded ∧
      (c.limited 5 .nil).compile e = (c.limited 1 .nil).compile e) ∧
    ((c.limited 2 .nil).compile e).Avoids CompileError.depthExceeded ∧
      (e.evaluate (.none .nil) 2).Avoids EvalError.depthExceeded ∧
      e.evaluate (.none .nil) 5 = e.evaluate (.none .nil) 2 := by
  intro c e
  have hg : e.Lacks Expr.isNewGuid := by decide
  have hheight : e.height = 2 := by decide
  have hsql : (c.limited 1 .nil).compile e =
      .ok (.sql (operatorText .greaterThan (c.target.dialect.quoteIdentifier "Pieces") "3")) := rfl
  have havoid : ((c.limited 1 .nil).compile e).Avoids CompileError.depthExceeded :=
    hsql ▸ Except.avoids_ok _
  obtain ⟨hsame, -⟩ := compile_limit c hg (show 1 ≤ 5 by decide) .nil .nil
  obtain ⟨-, hcompile, hvalue, hevaluate⟩ := compile_limit c hg (show 2 ≤ 5 by decide) .nil .nil
  have hroom : e.height ≤ 2 := hheight ▸ Nat.le_refl 2
  exact ⟨⟨hg, hheight, havoid, hsame havoid⟩, hcompile hroom, hevaluate hroom,
    hvalue (hevaluate hroom)⟩

end Context

end QueryClause
