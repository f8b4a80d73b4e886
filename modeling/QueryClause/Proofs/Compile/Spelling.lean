import QueryClause.Proofs.Compile.Construction
import QueryClause.Proofs.Compile.Membership
import QueryClause.Proofs.Compile.Surroundings

/-!
# Three spellings of a search

A query can ask in three ways whether a column is among some items: a method of a list of the items,
a function of such a list, and the function `In` for queries, which takes the items one by one.  The
compiler finds its way to each of them separately.  The first two compute the list as one
expression, the third one computes each item on its own.

The spellings compile to the same, also where they fail (`Context.compile_search_newArray`): the
column comes first in all of them, a list is computed from left to right (`Context.foldM_newArray`),
and what compiles to SQL on its own is never taken for a value further down
(`Context.isSql_of_deeper`).
-/

namespace QueryClause

/-- Computations that give the same on every supply, unless the first one fails for a limit. -/
def Simulation.within (limit : Nat) :
    Simulation (ExceptT CompileError (StateM Supply)) (ExceptT CompileError (StateM Supply)) where
  Rel x y := ∀ s : Supply, s.run x = s.run y ∨ (s.run x).1 = .error (.depthExceeded limit)
  pure _ _ := .inl rfl
  throw _ _ := .inl rfl
  lift _ _ := .inl rfl
  bind {_ _ x y _ _} h hf s := by
    cases hx : s.run x with
    | mk r s' =>
      rcases h s with hxy | hlimit
      · rw [hx] at hxy
        cases r with
        | ok a => rw [Supply.run_bind_ok hx, Supply.run_bind_ok hxy.symm]; exact hf a s'
        | error e => rw [Supply.run_bind_error hx, Supply.run_bind_error hxy.symm]; exact .inl rfl
      · rw [hx] at hlimit
        cases hlimit
        rw [Supply.run_bind_error hx]
        exact .inr rfl
  recover {_ x y _ _} h hf hpassed s := by
    cases hx : s.run x with
    | mk r s' =>
      rcases h s with hxy | hlimit
      · rw [hx] at hxy
        cases r with
        | ok a =>
          rw [Supply.run_tryCatch_ok hx, Supply.run_tryCatch_ok hxy.symm]
          exact .inl rfl
        | error e =>
          rw [Supply.run_tryCatch_error hx, Supply.run_tryCatch_error hxy.symm]
          exact hf e s'
      · rw [hx] at hlimit
        cases hlimit
        rw [Supply.run_tryCatch_error hx, hpassed]
        exact .inr rfl

namespace Context

variable {c : Context} {depth depth' : Nat} {e column : Expr} {items : List Expr}

/-- The function for queries that asks whether the first of its arguments is among the others. -/
def among (column : Expr) (items : List Expr) (type : HostType) : Expr :=
  .staticCall (.object "Sql") "In" (column :: items) type

/-! ### The items -/

section

variable {n : Type → Type} [Monad n] [LawfulMonad n] {draw : n Guid}

theorem adapt_evaluateItemsM (items : List Expr) :
    (Expr.evaluateItemsM draw c.env c.options.maxDepth 0 items).adapt .ofEval =
      items.mapM (c.foldM draw) := by
  induction items with
  | nil => exact Except.adapt_pure _ _
  | cons x rest ih =>
    rw [Expr.evaluateItemsM, List.mapM_cons, ← ih]
    simp only [Except.adapt_bind, Except.adapt_pure]
    rfl

/-- A list is computed item by item, up to the first that has no value. -/
theorem foldM_newArray (itemType : HostType) (h : ∀ x ∈ items, x.height < c.options.maxDepth) :
    c.foldM draw (.newArray itemType items) = .list <$> items.mapM (c.foldM draw) := by
  have hdeeper : Expr.evaluateItemsM draw c.env c.options.maxDepth 1 items =
      Expr.evaluateItemsM draw c.env c.options.maxDepth 0 items :=
    Expr.evaluateItemsM_congr fun x hx => by
      have := h x hx
      exact Expr.evaluateAtM_room (by omega) (by omega)
  rw [foldM, Expr.evaluateM, Expr.evaluateAtM, if_neg (Nat.not_lt_zero _), hdeeper,
    Except.adapt_bind, adapt_evaluateItemsM, map_eq_pure_bind]
  simp only [Except.adapt_pure]

end

/-! ### The column -/

/-- Further down, an expression compiles to the same or there is no room for it, unless it is a
lambda over a column, which the root alone makes a condition. -/
theorem compileAtM_deeper {fold : Expr → ExceptT CompileError (StateM Supply) Value}
    (hroot : depth = 0 → e.isColumnLambda = false) (h : depth ≤ depth') :
    (Simulation.within c.options.maxDepth).Rel (c.compileAtM fold depth' e)
      (c.compileAtM fold depth e) := by
  induction e using Expr.induction_children generalizing depth depth' with
  | step e ih =>
    by_cases hlow : c.options.maxDepth < depth'
    · rw [compileAtM.eq_def, if_pos hlow]
      exact fun _ => .inr rfl
    · refine compileAtM_rel_of_children (by omega) (by omega) (fun he => ?_) (fun _ _ _ => rfl)
        (fun _ _ _ => .inl rfl) fun x hx => ih x hx (fun hz => by omega) (by omega)
      -- a lambda over a column stands below the root, at both depths
      have hne : depth ≠ 0 := fun hz => by simp [hroot hz] at he
      have hne' : depth' ≠ 0 := by omega
      simp [asksForTruth, hne, hne']

/-- What compiles to SQL on its own does not compile to a value further down. -/
theorem isSql_of_deeper {s : Supply} {f g : Fragment} (hf : (c.compileFrom s column).1 = .ok f)
    (hsql : f.isSql = true)
    (hg : (s.run (c.compileAtM (c.foldM Supply.next) depth column)).1 = .ok g) :
    g.isSql = true := by
  cases hcol : column.isColumnLambda with
  | true =>
    have hlifted : c.compileAtM (c.foldM Supply.next) depth column =
        liftM (c.compileAt depth column) :=
      compileAtM_eq_liftM (.inr (Expr.lacks_isNewGuid_of_isColumnLambda hcol))
    rw [hlifted] at hg
    exact isSql_of_compile_columnLambda hcol hg
  | false =>
    have hor : s.run (c.compileAtM (c.foldM Supply.next) depth column) = c.compileFrom s column ∨
        (s.run (c.compileAtM (c.foldM Supply.next) depth column)).1 =
          .error (.depthExceeded c.options.maxDepth) :=
      compileAtM_deeper (fun _ => hcol) (Nat.zero_le depth) s
    rcases hor with h | h
    · rw [h, hf] at hg
      cases hg
      exact hsql
    · rw [hg] at h
      cases h

/-! ### The spellings -/

section

variable {n : Type → Type} [Monad n] {draw : n Guid}

theorem compileM_among (column : Expr) (items : List Expr) (type : HostType) :
    c.compileM draw (among column items type) = (do
      let f ← c.compileAtM (c.foldM draw) 1 column
      return c.inList (.list (← items.mapM (c.foldM draw))) f) := by
  rw [compileM, among, compileAtM, if_neg (Nat.not_lt_zero _)]
  rfl

theorem compileM_search {search : Search} {collection : Expr} (hs : search.Proper) :
    c.compileM draw (search.expr collection column) =
      c.containmentM (c.foldM draw) (search.expr collection column) collection
        (c.compileAtM (c.foldM draw) 1 column) := by
  cases search with
  | method owner type =>
    have howner : owner.isEnumerable = true := hs
    rw [compileM, Search.expr, compileAtM, if_neg (Nat.not_lt_zero _), howner]
    rfl
  | function owner type =>
    have hcall : ((Search.function owner type).expr collection column).isQueryCall = false :=
      Search.isQueryCall_expr hs
    rw [compileM, Search.expr, compileAtM, if_neg (Nat.not_lt_zero _),
      if_neg (of_decide_eq_false hcall)]
    rfl

end

/-- **The spellings of a search agree**: for a column that compiles to SQL and items that the depth
limit leaves room for, the method and the function of lists compile to what the function for queries
compiles to, a condition or a failure.

The compilations take their new identifiers from the same supply, or they ask for none. -/
theorem compile_search_newArray {search : Search} {s s' : Supply} {f : Fragment}
    (itemType type : HostType) (hs : s = s' ∨ (among column items type).Lacks Expr.isNewGuid)
    (hsearch : search.Proper) (hitems : ∀ x ∈ items, x.height < c.options.maxDepth)
    (hf : (c.compileFrom s column).1 = .ok f) (hsql : f.isSql = true) :
    (c.compileFrom s (search.expr (.newArray itemType items) column)).1 =
      (c.compileFrom s' (among column items type)).1 := by
  have hsame : c.compileFrom s (search.expr (.newArray itemType items) column) =
      c.compileFrom s (among column items type) := by
    rw [compileFrom, compileFrom, compileM_search hsearch, compileM_among, containmentM,
      foldM_newArray itemType hitems]
    cases hg : s.run (c.compileAtM (c.foldM Supply.next) 1 column) with
    | mk r s₁ =>
      cases r with
      | error cause => rw [Supply.run_bind_error hg, Supply.run_bind_error hg]
      | ok g =>
        have hg' : g.isSql = true := isSql_of_deeper hf hsql (congrArg Prod.fst hg)
        rw [Supply.run_bind_ok hg, Supply.run_bind_ok hg, if_pos hg', bind_map_left]
  rw [hsame]
  rcases hs with rfl | hs
  · rfl
  · rw [compileFrom_of_lacks s hs, compileFrom_of_lacks s' hs]

/-- Null and a list of new identifiers among the items. -/
theorem compile_search_newArray_pieces :
    let c := bare .generic
    let type := HostType.int .int64
    let items := [Expr.ofValue (.int 3), .constant .null type, .newArray .guid [.newGuid, .newGuid]]
    let list := Expr.newArray type items
    (c.compileFrom .counting (among pieces items .bool)).1.map (Fragment.render c.target) =
      .ok ("Pieces In (3,NULL,'00000000-0000-0000-0000-000000000000'," ++
        "'00000000-0000-0000-0000-000000000001')") ∧
    (c.compileFrom .counting ((Search.method (.list type) .bool).expr list pieces)).1 =
      (c.compileFrom .counting (among pieces items .bool)).1 ∧
    (c.compileFrom .counting ((Search.function (.object "Enumerable") .bool).expr list pieces)).1 =
      (c.compileFrom .counting (among pieces items .bool)).1 := by
  intro c type items list
  have hitems : ∀ x ∈ items, x.height < c.options.maxDepth := by decide
  exact ⟨Except.eq_ok_of_toOption (by decide +kernel),
    compile_search_newArray type .bool (.inl rfl) rfl hitems rfl rfl,
    compile_search_newArray type .bool (.inl rfl) rfl hitems rfl rfl⟩

end Context

end QueryClause
