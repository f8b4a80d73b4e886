import QueryClause.Proofs.Compile.Node
import QueryClause.Proofs.Eval.Fresh

/-!
# Runs of the compiler

A compilation takes place in a monad.  It leaves to `fold` what it computes of an expression, and
does nothing else there than to put steps together, to fail, and to recover from some failures.  A
`Simulation` is a correspondence between the computations of two monads that all this respects; two
compilations correspond if what they compute does and their columns are the same
(`Context.compileAtM_rel`).  One step is `Context.compileAtM_rel_of_children`.

Equality is a simulation (`Simulation.equality`), and the results outside a run are what the runs
without effects simulate (`Simulation.effectless`).  So a compilation that asks for no new
identifier is the same in every run (`Context.compileAtM_eq_liftM`); from a supply it gives
`Context.compile` and leaves the supply as it is (`Context.compileFrom_of_lacks`), where one that
asks draws once for each call (`Context.compileFrom_newGuids`).
-/

namespace QueryClause

/-- The identifiers in the order of their numbers. -/
def Supply.counting : Supply := ⟨fun i => ⟨BitVec.ofNat 128 i⟩⟩

/-- A correspondence between computations of two monads that compilation respects. -/
structure Simulation (m m' : Type → Type) [Monad m] [Monad m'] [MonadExceptOf CompileError m]
    [MonadExceptOf CompileError m'] [MonadLiftT (Except CompileError) m]
    [MonadLiftT (Except CompileError) m'] where
  /-- The computations that correspond. -/
  Rel : {α : Type} → m α → m' α → Prop
  pure {α : Type} (a : α) : Rel (Pure.pure a) (Pure.pure a)
  throw {α : Type} (e : CompileError) : Rel (α := α) (MonadExcept.throw e) (MonadExcept.throw e)
  lift {α : Type} (x : Except CompileError α) : Rel (liftM x) (liftM x)
  bind {α β : Type} {x : m α} {y : m' α} {f : α → m β} {g : α → m' β} (h : Rel x y)
    (hf : ∀ a, Rel (f a) (g a)) : Rel (x >>= f) (y >>= g)
  /-- To recover is respected where the failure of a depth limit is passed on. -/
  recover {α : Type} {x : m α} {y : m' α} {f : CompileError → m α} {g : CompileError → m' α}
    (h : Rel x y) (hf : ∀ e, Rel (f e) (g e))
    (hlimit : ∀ n, f (.depthExceeded n) = MonadExcept.throw (.depthExceeded n)) :
    Rel (tryCatch x f) (tryCatch y g)

namespace Simulation

variable {m m' : Type → Type} [Monad m] [Monad m'] [MonadExceptOf CompileError m]
  [MonadExceptOf CompileError m'] [MonadLiftT (Except CompileError) m]
  [MonadLiftT (Except CompileError) m'] (k : Simulation m m') {α β : Type}

theorem ite {p : Prop} [Decidable p] {x x' : m α} {y y' : m' α} (h : p → k.Rel x y)
    (h' : ¬ p → k.Rel x' y') : k.Rel (if p then x else x') (if p then y else y') := by
  split
  · exact h ‹_›
  · exact h' ‹_›

theorem map [LawfulMonad m] [LawfulMonad m'] {x : m α} {y : m' α} (f : α → β) (h : k.Rel x y) :
    k.Rel (f <$> x) (f <$> y) := by
  rw [map_eq_pure_bind, map_eq_pure_bind]
  exact k.bind h fun a => k.pure (f a)

theorem mapM [LawfulMonad m] [LawfulMonad m'] {f : α → m β} {g : α → m' β} {l : List α}
    (h : ∀ a ∈ l, k.Rel (f a) (g a)) : k.Rel (l.mapM f) (l.mapM g) := by
  induction l with
  | nil => exact k.pure []
  | cons a rest ih =>
    rw [List.mapM_cons, List.mapM_cons]
    refine k.bind (h a List.mem_cons_self) fun b => ?_
    exact k.bind (ih fun a ha => h a (List.mem_cons_of_mem _ ha)) fun bs => k.pure (b :: bs)

/-- Equality. -/
def equality (m : Type → Type) [Monad m] [MonadExceptOf CompileError m]
    [MonadLiftT (Except CompileError) m] : Simulation m m where
  Rel := Eq
  pure _ := rfl
  throw _ := rfl
  lift _ := rfl
  bind h hf := by rw [h, funext hf]
  recover h hf _ := by rw [h, funext hf]

/-- A run without effects and its result. -/
def effectless (n : Type → Type) [Monad n] [LawfulMonad n] :
    Simulation (ExceptT CompileError n) (Except CompileError) where
  Rel x y := x = liftM y
  pure _ := rfl
  throw _ := rfl
  lift _ := rfl
  bind h hf := by rw [h, funext hf, liftM_bind]
  recover h hf _ := by rw [h, funext hf, Except.tryCatch_liftM]

end Simulation

namespace Context

variable {m m' : Type → Type} [Monad m] [Monad m'] [MonadExceptOf CompileError m]
  [MonadExceptOf CompileError m'] [MonadLiftT (Except CompileError) m]
  [MonadLiftT (Except CompileError) m'] {k : Simulation m m'} {fold : Expr → m Value}
  {fold' : Expr → m' Value} {f : Expr → m Fragment} {g : Expr → m' Fragment} {c : Context}
  {schema : Schema} {clause : Clause} {e : Expr}

/-! ### The parts of a step -/

section

variable {method column : String} {args : List Expr}

theorem nativeArg_rel (i : Nat) (h : ∀ x ∈ args, k.Rel (f x) (g x)) :
    k.Rel (nativeArg method column (args.map f) i) (nativeArg method column (args.map g) i) := by
  rw [nativeArg, nativeArg, List.getElem?_map, List.getElem?_map]
  cases hx : args[i]? with
  | none => exact k.throw _
  | some x =>
    refine k.bind (h x (List.mem_of_getElem? hx)) fun l => ?_
    cases l with
    | native v => exact k.pure v
    | _ => exact k.throw _

theorem intArg_rel (i : Nat) (h : ∀ x ∈ args, k.Rel (f x) (g x)) :
    k.Rel (intArg method column (args.map f) i) (intArg method column (args.map g) i) := by
  refine k.bind (nativeArg_rel i h) fun v => ?_
  cases v.asInt? with
  | some n => exact k.pure n
  | none => exact k.throw _

theorem likeMethod_rel {place : LikePlace} (h : ∀ x ∈ args, k.Rel (f x) (g x)) :
    k.Rel (c.likeMethod method place column (args.map f))
      (likeMethod { c with schema, clause } method place column (args.map g)) :=
  k.bind (nativeArg_rel 0 h) fun _ => k.pure _

theorem partTexts_rel {es : List Expr} (h : ∀ x ∈ es, k.Rel (f x) (g x)) :
    k.Rel (c.partTexts (es.map fun x => (x.staticType, f x)))
      (partTexts { c with schema, clause } (es.map fun x => (x.staticType, g x))) := by
  induction es with
  | nil => exact k.pure []
  | cons e rest ih =>
    refine k.bind (h e List.mem_cons_self) fun l => ?_
    exact k.bind (ih fun x hx => h x (List.mem_cons_of_mem _ hx)) fun ts => k.pure _

theorem connectiveM_rel {op : BinaryOp} {l r : Fragment} (h : k.Rel (fold e) (fold' e)) :
    k.Rel (c.connectiveM fold e op l r)
      (connectiveM fold' { c with schema, clause } e op l r) :=
  k.ite (fun _ => k.bind (k.lift _) fun _ => k.bind (k.lift _) fun _ => k.pure _)
    fun _ => k.bind h fun _ => k.pure _

variable [LawfulMonad m] [LawfulMonad m']

theorem columnMethodText_rel (h : ∀ x ∈ args, k.Rel (f x) (g x)) :
    k.Rel (c.columnMethodText column method (args.map f))
      (columnMethodText { c with schema, clause } column method (args.map g)) := by
  unfold columnMethodText
  split
  -- the methods that take a pattern, then the one that cuts a part out
  case h_6 | h_7 | h_8 => exact likeMethod_rel h
  case h_9 =>
    refine k.bind (intArg_rel 0 h) fun start => ?_
    rw [List.length_map, List.length_map]
    split
    · -- a second argument is optional, and is only computed where it is given
      exact k.bind (k.pure none) fun length => k.lift _
    · exact k.bind (k.map some (intArg_rel 1 h)) fun length => k.lift _
  case h_10 => exact k.throw _
  all_goals exact k.pure _

theorem columnMethod_rel {receiver : Expr} (hr : k.Rel (f receiver) (g receiver))
    (h : ∀ x ∈ args, k.Rel (f x) (g x)) :
    k.Rel (c.columnMethod receiver method (f receiver) (args.map f))
      (columnMethod { c with schema, clause } receiver method (g receiver) (args.map g)) := by
  refine k.bind hr fun l => ?_
  cases l with
  | native v => exact k.throw _
  | _ => exact k.bind (columnMethodText_rel h) fun t => k.pure _

theorem containmentM_rel {collection : Expr} {x : m Fragment} {y : m' Fragment}
    (h : k.Rel (fold e) (fold' e)) (hcollection : k.Rel (fold collection) (fold' collection))
    (hx : k.Rel x y) :
    k.Rel (c.containmentM fold e collection x)
      (containmentM fold' { c with schema, clause } e collection y) :=
  k.bind hx fun _ =>
    k.ite (fun _ => k.bind hcollection fun _ => k.pure _) fun _ => k.map Fragment.native h

theorem applyM_rel (helper : Helper) {rest : List Expr} {x : m Fragment} {y : m' Fragment}
    (h : ∀ e ∈ rest, k.Rel (fold e) (fold' e)) (hx : k.Rel x y) :
    k.Rel (helper.applyM fold c x rest)
      (helper.applyM fold' { c with schema, clause } y rest) := by
  refine k.bind hx fun l => ?_
  cases helper with
  | around before after => exact k.pure _
  | among => exact k.bind (k.mapM h) fun vs => k.pure _
  | named =>
    cases rest with
    | nil => exact k.throw _
    | cons e rest => exact k.bind (h e List.mem_cons_self) fun v => k.pure _

theorem constructionM_rel (hfold : k.Rel (fold e) (fold' e))
    (h : ∀ x ∈ e.children, k.Rel (f x) (g x)) :
    k.Rel (c.constructionM fold e fun _ => e.children.map fun x => (x.staticType, f x))
      (constructionM fold' { c with schema, clause } e fun _ =>
        e.children.map fun x => (x.staticType, g x)) := by
  refine k.recover (k.map Fragment.native hfold) (fun cause => ?_) fun n => rfl
  cases cause with
  | evaluation cause =>
    cases cause with
    -- the one cause after which a construction tries its parts
    | invalidOperation => exact k.bind (partTexts_rel h) fun ts => k.pure _
    | _ => exact k.throw _
  | _ => exact k.throw _

end

/-! ### Steps and whole compilations -/

variable [LawfulMonad m] [LawfulMonad m'] {depth depth' : Nat}

/-- Whether a column under a lambda at a depth becomes a condition. -/
def asksForTruth (c : Context) (depth : Nat) : Bool := depth = 0 && c.clause = .predicate

theorem compileAtM_rel_of_children (hd : depth ≤ c.options.maxDepth)
    (hd' : depth' ≤ c.options.maxDepth)
    (hroot : e.isColumnLambda = true →
      c.asksForTruth depth = asksForTruth { c with schema, clause } depth')
    (hcolumn : ∀ x ∈ e :: e.children, x.isColumn = true →
      c.column x = column { c with schema, clause } x)
    (hfold : ∀ x ∈ e :: e.children, k.Rel (fold x) (fold' x))
    (h : ∀ x ∈ e.children, k.Rel (compileAtM fold c (depth + 1) x)
      (compileAtM fold' { c with schema, clause } (depth' + 1) x)) :
    k.Rel (compileAtM fold c depth e)
      (compileAtM fold' { c with schema, clause } depth' e) := by
  have hlow : ¬ c.options.maxDepth < depth := by omega
  have hlow' : ¬ c.options.maxDepth < depth' := by omega
  have hnode := hfold e List.mem_cons_self
  have hchild : ∀ x ∈ e.children, k.Rel (fold x) (fold' x) :=
    fun x hx => hfold x (List.mem_cons_of_mem _ hx)
  -- a column in a connective or at the root is asked whether it is true
  have htrue : ∀ x ∈ e.children, x.isColumn = true →
      k.Rel (liftM (c.trueColumn x)) (liftM (trueColumn { c with schema, clause } x)) := by
    intro x hx hcol
    rw [trueColumn, trueColumn, hcolumn x (List.mem_cons_of_mem _ hx) hcol]
    exact k.lift _
  cases e with
  | lambda params body =>
    have hbody := h body List.mem_cons_self
    rw [compileAtM, compileAtM, if_neg hlow, if_neg hlow']
    cases hcol : body.isColumn with
    | false => simpa using hbody
    | true =>
      -- both sides ask for a truth value, or neither does
      have hplace : (decide (depth = 0) && decide (c.clause = .predicate)) =
          (decide (depth' = 0) && decide (clause = .predicate)) := hroot hcol
      simp only [Bool.and_true, hplace]
      exact k.ite (fun _ => htrue body List.mem_cons_self hcol) fun _ => hbody
  | member owner name declaring type =>
    rw [compileAtM, compileAtM, if_neg hlow, if_neg hlow']
    refine k.ite (fun hcol => ?_) fun _ => k.map Fragment.native hnode
    rw [hcolumn _ List.mem_cons_self hcol]
    exact k.lift _
  | staticMember owner name type =>
    rw [compileAtM, compileAtM, if_neg hlow, if_neg hlow']
    exact k.map Fragment.native hnode
  | constant v type =>
    rw [compileAtM, compileAtM, if_neg hlow, if_neg hlow']
    exact k.ite (fun _ => k.pure _) fun _ => k.map Fragment.native hnode
  | parameter name type =>
    rw [compileAtM, compileAtM, if_neg hlow, if_neg hlow']
    exact k.pure _
  | binary op left right =>
    have hleft : left ∈ (Expr.binary op left right).children := by simp [Expr.children]
    have hright : right ∈ (Expr.binary op left right).children := by simp [Expr.children]
    rw [compileAtM, compileAtM, if_neg hlow, if_neg hlow']
    refine k.ite (fun _ => ?_) fun _ => k.bind (h left hleft) fun l =>
      k.bind (h right hright) fun r => k.lift _
    refine k.ite (fun hl => k.bind (htrue left hleft hl) fun l => ?_) fun _ =>
      k.bind (h left hleft) fun l => ?_
    -- the right operand is visited after the left one, as a column or as any other
    all_goals
      exact k.ite (fun hr => k.bind (htrue right hright hr) fun r => connectiveM_rel hnode)
        fun _ => k.bind (h right hright) fun r => connectiveM_rel hnode
  | unary op operand type via =>
    rw [compileAtM, compileAtM, if_neg hlow, if_neg hlow']
    refine k.ite (fun _ => k.map Fragment.native hnode) fun _ => ?_
    exact k.bind (h operand List.mem_cons_self) fun l => k.lift _
  | call receiver method args owner type =>
    rw [compileAtM, compileAtM, if_neg hlow, if_neg hlow']
    simp only [compileAllM_eq_map]
    have hargs : ∀ x ∈ args, k.Rel (compileAtM fold c (depth + 1) x)
        (compileAtM fold' { c with schema, clause } (depth' + 1) x) :=
      fun x hx => h x (List.mem_cons_of_mem _ hx)
    split
    · -- a search, a method of a column, and what is computed as a whole
      exact containmentM_rel hnode (hchild _ List.mem_cons_self) (hargs _ List.mem_cons_self)
    · exact k.ite (fun _ => columnMethod_rel (h receiver List.mem_cons_self) hargs)
        fun _ => k.map Fragment.native hnode
  | staticCall owner method args type =>
    rw [compileAtM, compileAtM, if_neg hlow, if_neg hlow']
    dsimp only
    split
    · -- a function for queries, a search, and what is computed as a whole
      exact applyM_rel _ (fun x hx => hchild x (List.mem_cons_of_mem _ hx))
        (h _ List.mem_cons_self)
    · refine k.ite (fun _ => ?_) fun _ => k.map Fragment.native hnode
      exact containmentM_rel hnode (hchild _ List.mem_cons_self)
        (h _ (List.mem_cons_of_mem _ List.mem_cons_self))
    · exact k.map Fragment.native hnode
  | new | newArray =>
    rw [compileAtM, compileAtM, if_neg hlow, if_neg hlow']
    simp only [compilePartsM_eq_map]
    exact constructionM_rel hnode h
  | memberInit =>
    rw [compileAtM, compileAtM, if_neg hlow, if_neg hlow']
    simp only [compileBindingsM_eq_map]
    exact constructionM_rel hnode h

/-- **What a compilation computes decides what it gives.**  Two compilations correspond if what they
compute of the expression does, and if their columns and their clauses agree where these matter. -/
theorem compileAtM_rel
    (hroot : depth = 0 → e.isColumnLambda = true → c.clause = clause)
    (hcolumn : ∀ x, Expr.Occurs x e → x.isColumn = true →
      c.column x = column { c with schema, clause } x)
    (hfold : ∀ x, Expr.Occurs x e → k.Rel (fold x) (fold' x)) :
    k.Rel (compileAtM fold c depth e) (compileAtM fold' { c with schema, clause } depth e) := by
  induction e using Expr.induction_children generalizing depth with
  | step e ih =>
    have hoccurs : ∀ x ∈ e :: e.children, Expr.Occurs x e := fun x hx => by
      rcases List.mem_cons.1 hx with rfl | hx
      · exact .root
      · exact .child hx .root
    -- below the limit on both sides at once, since the depths are the same
    by_cases hlow : c.options.maxDepth < depth
    · rw [compileAtM.eq_def, compileAtM.eq_def, if_pos hlow, if_pos hlow]
      exact k.throw _
    · refine compileAtM_rel_of_children (by omega) (by omega) (fun he => ?_)
        (fun x hx => hcolumn x (hoccurs x hx)) (fun x hx => hfold x (hoccurs x hx)) fun x hx => ?_
      · -- only at the root does the clause matter
        by_cases hd : depth = 0
        · rw [asksForTruth, asksForTruth, hroot hd he]
        · simp [asksForTruth, hd]
      · -- a child is below the root, so nothing is asked of its clause
        exact ih x hx (fun hd => absurd hd (Nat.succ_ne_zero depth))
          (fun y hy => hcolumn y (.child hx hy)) fun y hy => hfold y (.child hx hy)

/-! ### Runs without new identifiers -/

section

variable {n : Type → Type} [Monad n] [LawfulMonad n] {draw : n Guid}

theorem fold_eq_mapError (c : Context) (e : Expr) :
    c.fold e = (e.evaluate c.env c.options.maxDepth).mapError .ofEval := by
  rw [fold]
  cases e.evaluate c.env c.options.maxDepth <;> rfl

theorem foldM_eq_liftM (h : draw = pure c.env.freshGuid ∨ e.Lacks Expr.isNewGuid) :
    c.foldM draw e = liftM (c.fold e) := by
  rw [foldM, Expr.evaluateM, Expr.evaluateAtM_eq_liftM h, fold_eq_mapError, Except.adapt_liftM]
  rfl

/-- **A run without new identifiers** has no effect, and its result is the one outside a run. -/
theorem compileAtM_eq_liftM (h : draw = pure c.env.freshGuid ∨ e.Lacks Expr.isNewGuid) :
    c.compileAtM (c.foldM draw) depth e = liftM (c.compileAt depth e) :=
  compileAtM_rel (k := .effectless n) (fun _ _ => rfl) (fun _ _ _ => rfl) fun _ hx =>
    foldM_eq_liftM (h.imp_right (·.of_occurs hx))

end

/-! ### Runs on a supply -/

/-- Without new identifiers, the result does not depend on the supply and leaves it as it is. -/
theorem compileFrom_of_lacks (s : Supply) (h : e.Lacks Expr.isNewGuid) :
    c.compileFrom s e = (c.compile e, s) := by
  rw [compileFrom, compileM, compileAtM_eq_liftM (.inr h)]
  rfl

/-- A list of calls for new identifiers is computed, and draws one for each. -/
theorem compileFrom_newGuids {type : HostType} (s : Supply) (hd : 1 ≤ c.options.maxDepth)
    (count : Nat) :
    c.compileFrom s (.newArray type (List.replicate count .newGuid)) =
      (.ok (.native (.list ((List.range count).map fun i => .guid (s.guid i)))), s.drop count) := by
  -- the list is computed as a whole, so its parts are never compiled
  have hlist : s.run (Expr.evaluateM Supply.next c.env c.options.maxDepth
      (.newArray type (List.replicate count .newGuid))) =
        (.ok (.list ((List.range count).map fun i => .guid (s.guid i))), s.drop count) := by
    rw [Expr.evaluateM, Expr.evaluateAtM, if_neg (by omega),
      Supply.run_bind_ok (Expr.evaluateItemsM_newGuid s hd count)]
    rfl
  rw [compileFrom, compileM, compileAtM, if_neg (by omega)]
  exact Supply.run_tryCatch_ok (Supply.run_map_ok (Supply.run_adapt_ok hlist))

end Context

end QueryClause
