import QueryClause.Proofs.Eval.Depth

/-!
# New identifiers

Evaluation is a function of the expression and the environment but for one call, `Guid.NewGuid`.
An expression without that call has the same value whatever `Environment.freshGuid` is
(`Expr.value_withFresh`).

On a supply, each of these calls has an identifier of its own: calls in a row draw the first ones,
in order (`Expr.evaluateItemsM_newGuid`).
-/

namespace QueryClause

namespace Expr

variable {env : Environment} {fresh : Guid}

theorem typeMethod?_fresh {owner method : String} (g h : Guid) (args : List Value)
    (hn : (owner == "Guid" && method == "NewGuid") = false) :
    typeMethod? g owner method args = typeMethod? h owner method args := by
  unfold typeMethod?
  split
  · rfl
  · split <;> try rfl
    split
    · simp at hn
    · rfl

/-- No method of a value makes a new identifier. -/
theorem invoke_withFresh {owner : HostType} {method : String} {args : List Value} (v : Value) :
    invoke (env.withFresh fresh) owner (some v) method args =
      invoke env owner (some v) method args := by
  cases v <;> rfl

theorem evaluateNode_withFresh {e : Expr} (f : Expr → Except EvalError Value)
    (h : e.isNewGuid = false) :
    evaluateNode (env.withFresh fresh) f e = evaluateNode env f e := by
  cases e with
  | staticCall owner method args type =>
    simp only [evaluateNode, invoke, callMethod?]
    simp only [typeMethod?_fresh (env.withFresh fresh).freshGuid env.freshGuid _ h]
    rfl
  | call target method args owner type => simp only [evaluateNode, invoke_withFresh]
  | _ => rfl

/-- Without a call that makes a new identifier, evaluation does not depend on which one is next. -/
theorem evaluateAt_withFresh {limit depth : Nat} {e : Expr} (h : e.Lacks isNewGuid) :
    evaluateAt (env.withFresh fresh) limit depth e = evaluateAt env limit depth e := by
  induction e using induction_children generalizing depth with
  | step e ih =>
    rw [evaluateAt_eq, evaluateAt_eq, evaluateNode_withFresh _ h.root]
    have hnode : evaluateNode env (evaluateAt (env.withFresh fresh) limit (depth + 1)) e =
        evaluateNode env (evaluateAt env limit (depth + 1)) e :=
      evaluateNode_congr fun x hx => ih x hx (h.child hx)
    rw [hnode]

/-- Nor does the value. -/
theorem value_withFresh {e : Expr} (h : e.Lacks isNewGuid) :
    value (env.withFresh fresh) e = value env e :=
  evaluateAt_withFresh h

/-! ### Supplies -/

/-- A call for a new identifier. -/
def newGuid : Expr := .staticCall (.object "Guid") "NewGuid" [] .guid

theorem evaluateAtM_newGuid {limit depth : Nat} (s : Supply) (hd : depth ≤ limit) :
    s.run (evaluateAtM Supply.next env limit depth newGuid) =
      (.ok (.guid (s.guid 0)), s.drop 1) := by
  rw [newGuid, evaluateAtM, if_neg (by omega)]
  rfl

/-- **Each call for a new identifier has one of its own.** -/
theorem evaluateItemsM_newGuid {limit depth : Nat} (s : Supply) (hd : depth ≤ limit)
    (count : Nat) :
    s.run (evaluateItemsM Supply.next env limit depth (List.replicate count newGuid)) =
      (.ok ((List.range count).map fun i => .guid (s.guid i)), s.drop count) := by
  induction count generalizing s with
  | zero => rfl
  | succ count ih =>
    -- the other calls draw from what the first one leaves
    have hrest := ih (s.drop 1)
    rw [List.replicate_succ, evaluateItemsM, Supply.run_bind_ok (evaluateAtM_newGuid s hd),
      Supply.run_bind_ok hrest, List.range_succ_eq_map, List.map_cons, List.map_map]
    rfl

end Expr

end QueryClause
