import QueryClause.Proofs.Compile.Method

/-!
# Receivers of methods on columns

What a method on a column is called on may hold nodes that are left to the evaluator and the host as
a whole: a conversion by a function of the host, or a search.  Still it never becomes a value.
Before the host is asked for anything, the evaluator needs a value for the query parameter below all
these nodes, and there is none (`Expr.value_rooted`).

A method on a column has a failure for a receiver that is a value after all.  A step has this
failure only if one of its children has it, or if the receiver of a method on a column is no SQL
(`Context.compileNode_avoids`).  So no compilation ends in it (`Context.compileAt_avoids`), and none
in a failure that is worded like it (`Context.receiver_never_native`).
-/

namespace QueryClause

/-! ### The failure and its wording -/

namespace Malformed

theorem head_receiver (method text : String) :
    (receiver method text).message.toList.head? = some 'r' := by
  change ("receiver of '" ++ method ++ "' did not compile to a column: " ++ text).toList.head? = _
  simp

/-- The wording of no other cause begins like that of a receiver. -/
theorem exists_of_head {cause : Malformed} (h : cause.message.toList.head? = some 'r') :
    ∃ method text, cause = receiver method text := by
  cases cause with
  | receiver method text => exact ⟨method, text, rfl⟩
  | notMember kind =>
    change ("expected a member access, found " ++ kind).toList.head? = _ at h
    simp at h
  | unknownEntity text =>
    change ("cannot resolve the declaring type of '" ++ text ++ "'").toList.head? = _ at h
    simp at h
  | missingArgument method column position =>
    change ("'" ++ method ++ "' on " ++ column ++ " is missing argument " ++
      Text.ofNat position).toList.head? = _ at h
    simp at h
  | notInteger method position =>
    change ("'" ++ method ++ "' argument " ++ Text.ofNat position ++
      " must be an integer").toList.head? = _ at h
    simp at h
  | missingAlias => exact absurd h (by decide)

end Malformed

namespace CompileError

/-- The failure of a method for a receiver that is a value, by the name of the method and the text
of the receiver. -/
@[simp] def ofReceiver (r : String × String) : CompileError := malformed (.receiver r.1 r.2)

@[simp] theorem ofEval_ne_malformed (cause : EvalError) (m : Malformed) :
    ofEval cause ≠ malformed m := by
  cases cause <;> simp [ofEval]

theorem head_malformed (m : Malformed) : (malformed m).message.toList.head? = some 'M' := by
  change ("Malformed expression: " ++ m.message).toList.head? = _
  simp

/-- The wording of a malformed tree is that of no other failure, and of no other cause unless they
are worded alike. -/
theorem exists_of_message_eq {cause : CompileError} {m : Malformed}
    (h : cause.message = (malformed m).message) :
    ∃ m', cause = malformed m' ∧ m'.message = m.message := by
  -- the first letter tells the four kinds of failure apart
  have hhead := head_malformed m
  rw [← h] at hhead
  cases cause with
  | malformed m' => exact ⟨m', rfl, (String.append_right_inj _).1 h⟩
  | unsupported method column =>
    change ("Unsupported operation: '" ++ method ++ "' on " ++ column).toList.head? = _ at hhead
    simp at hhead
  | evaluation cause =>
    change ("Evaluation error: " ++ cause.message).toList.head? = _ at hhead
    simp at hhead
  | depthExceeded limit =>
    change ("Expression nesting exceeds the maximum depth of " ++
      Text.ofNat limit).toList.head? = _ at hhead
    simp at hhead

/-- What is no failure for a receiver is not worded like one. -/
theorem message_ne_of_avoids {α : Type} {x : Except CompileError α} {cause : CompileError}
    (havoid : x.Avoids ofReceiver) (h : x = .error cause) (method text : String) :
    cause.message ≠ (malformed (.receiver method text)).message := by
  intro hmessage
  obtain ⟨m, rfl, hm⟩ := exists_of_message_eq hmessage
  have hhead := Malformed.head_receiver method text
  rw [← hm] at hhead
  obtain ⟨method', text', rfl⟩ := Malformed.exists_of_head hhead
  exact havoid (method', text') h

end CompileError

/-! ### The evaluator -/

/-- At every depth, the evaluator fails for what is rooted in a column: for the query parameter
below it, or for its limit. -/
theorem Expr.evaluateAt_rooted {e : Expr} (env : Environment) (limit depth : Nat)
    (h : e.isColumnRooted = true) :
    (∃ name, e.evaluateAt env limit depth = .error (.invalidOperation (.freeParameter name))) ∨
      e.evaluateAt env limit depth = .error (.depthExceeded limit) := by
  -- the limit apart, the evaluator finds the value, and there is none
  have hor : e.evaluateAt env limit depth = e.value env ∨
      e.evaluateAt env limit depth = .error (.depthExceeded limit) := e.evaluateAt_eq_value_or
  refine hor.imp_left fun hvalue => ?_
  rw [hvalue]
  exact value_rooted env h

namespace Context

variable {c : Context} {depth : Nat} {e : Expr} {f : Expr → Compiled}

/-! ### What is computed -/

@[simp] theorem fold_avoids (e : Expr) : (c.fold e).Avoids CompileError.ofReceiver := by
  unfold fold
  split <;> simp

@[simp] theorem foldNative_avoids (e : Expr) : (c.foldNative e).Avoids CompileError.ofReceiver := by
  simp [foldNative]

@[simp] theorem mapM_fold_avoids (es : List Expr) :
    (es.mapM c.fold).Avoids CompileError.ofReceiver := by
  induction es with
  | nil => exact Except.avoids_ok _
  | cons e rest ih => simp [List.mapM_cons, ih]

@[simp] theorem ofValue_avoids (r : Except EvalError Value) :
    (Compiled.ofValue r).Avoids CompileError.ofReceiver := by
  cases r <;> simp [Compiled.ofValue]

/-! ### Columns and operators -/

@[simp] theorem column_avoids (e : Expr) : (c.column e).Avoids CompileError.ofReceiver := by
  unfold column
  split
  · split <;> simp
  · simp

@[simp] theorem trueColumn_avoids (e : Expr) :
    (c.trueColumn e).Avoids CompileError.ofReceiver := by
  simp [trueColumn]

theorem connectiveOperand_avoids (h : (f e).Avoids CompileError.ofReceiver) :
    (c.connectiveOperand f e).Avoids CompileError.ofReceiver := by
  unfold connectiveOperand
  split
  · exact trueColumn_avoids e
  · exact h

@[simp] theorem operator_avoids (op : BinaryOp) (leftType rightType : HostType) (l r : Fragment) :
    (c.operator op leftType rightType l r).Avoids CompileError.ofReceiver := by
  unfold operator
  split <;> simp

@[simp] theorem condition_avoids (l : Fragment) :
    (c.condition l).Avoids CompileError.ofReceiver := by
  unfold condition
  split <;> simp

@[simp] theorem connective_avoids (e : Expr) (op : BinaryOp) (l r : Fragment) :
    (c.connective e op l r).Avoids CompileError.ofReceiver := by
  rw [connective_eq]
  split <;> simp

@[simp] theorem unaryOperator_avoids (op : UnaryOp) (type : HostType) (ofColumn : Bool)
    (l : Fragment) : (c.unaryOperator op type ofColumn l).Avoids CompileError.ofReceiver := by
  unfold unaryOperator
  split
  · simp
  · split <;> simp

/-! ### Calls -/

theorem containment_avoids {collection : Expr} {column : Compiled}
    (h : column.Avoids CompileError.ofReceiver) :
    (c.containment e collection column).Avoids CompileError.ofReceiver := by
  refine Except.avoids_monad_bind_iff.2 ⟨h, fun g _ => ?_⟩
  split <;> simp

theorem nativeArg_avoids {args : List Compiled} (method column : String) (i : Nat)
    (h : ∀ x ∈ args, x.Avoids CompileError.ofReceiver) :
    (nativeArg method column args i).Avoids CompileError.ofReceiver := by
  unfold nativeArg
  split
  · simp
  · refine Except.avoids_monad_bind_iff.2 ⟨h _ (List.mem_of_getElem? ‹_›), fun g _ => ?_⟩
    split <;> simp

theorem intArg_avoids {args : List Compiled} (method column : String) (i : Nat)
    (h : ∀ x ∈ args, x.Avoids CompileError.ofReceiver) :
    (intArg method column args i).Avoids CompileError.ofReceiver := by
  refine Except.avoids_monad_bind_iff.2 ⟨nativeArg_avoids method column i h, fun v _ => ?_⟩
  split <;> simp

@[simp] theorem substring_avoids (column : String) (start : Int64) (length : Option Int64) :
    (substring column start length).Avoids CompileError.ofReceiver := by
  unfold substring
  repeat' split
  all_goals simp

theorem likeMethod_avoids {args : List Compiled} (method : String) (place : LikePlace)
    (column : String) (h : ∀ x ∈ args, x.Avoids CompileError.ofReceiver) :
    (c.likeMethod method place column args).Avoids CompileError.ofReceiver := by
  simp [likeMethod, nativeArg_avoids _ _ _ h]

theorem columnMethodText_avoids {args : List Compiled} (column method : String)
    (h : ∀ x ∈ args, x.Avoids CompileError.ofReceiver) :
    (c.columnMethodText column method args).Avoids CompileError.ofReceiver := by
  unfold columnMethodText
  split
  case h_6 | h_7 | h_8 => exact likeMethod_avoids _ _ _ h
  case h_9 =>
    refine Except.avoids_monad_bind_iff.2 ⟨intArg_avoids _ _ _ h, fun start _ => ?_⟩
    dsimp only
    split <;> simp [intArg_avoids _ _ _ h]
  all_goals simp

/-- A receiver that is SQL leaves a method on a column without the failure for receivers. -/
theorem columnMethod_avoids {receiver : Expr} {column : Compiled} {args : List Compiled}
    (method : String) (hcolumn : column.Avoids CompileError.ofReceiver)
    (hsql : ∀ g, column = .ok g → g.isSql = true)
    (h : ∀ x ∈ args, x.Avoids CompileError.ofReceiver) :
    (c.columnMethod receiver method column args).Avoids CompileError.ofReceiver := by
  cases column with
  | error cause => exact hcolumn
  | ok g =>
    rw [columnMethod_of_isSql method (hsql g rfl)]
    exact Except.avoids_map_iff.2 (columnMethodText_avoids _ _ h)

theorem applyM_avoids {first : Compiled} (k : Helper) (rest : List Expr)
    (h : first.Avoids CompileError.ofReceiver) :
    (k.applyM c.fold c first rest).Avoids CompileError.ofReceiver := by
  refine Except.avoids_monad_bind_iff.2 ⟨h, fun g _ => ?_⟩
  split
  · simp
  · simp
  · split <;> simp

/-! ### Constructions -/

theorem partTexts_avoids {parts : List (HostType × Compiled)}
    (h : ∀ x ∈ parts, x.2.Avoids CompileError.ofReceiver) :
    (c.partTexts parts).Avoids CompileError.ofReceiver := by
  induction parts with
  | nil => exact Except.avoids_ok _
  | cons part rest ih =>
    obtain ⟨type, part⟩ := part
    have hrest := ih fun x hx => h x (List.mem_cons_of_mem _ hx)
    simp [partTexts, h _ List.mem_cons_self, hrest]

theorem construction_avoids {parts : Unit → List (HostType × Compiled)}
    (h : ∀ x ∈ parts (), x.2.Avoids CompileError.ofReceiver) :
    (c.construction e parts).Avoids CompileError.ofReceiver := by
  -- a failure of a construction is passed on, or its parts are tried
  have hfold : (c.fold e).Avoids CompileError.ofReceiver := fold_avoids e
  rw [construction_eq]
  split
  · simp
  · simp [partTexts_avoids h]
  · rename_i cause _ hcause
    rw [hcause, Except.avoids_error_iff] at hfold
    exact Except.avoids_error_iff.2 hfold

/-! ### Expressions -/

/-- A step has the failure for receivers only if one of its children has it, or if one that is
rooted in a column is no SQL. -/
theorem compileNode_avoids (h : ∀ x ∈ e.children, (f x).Avoids CompileError.ofReceiver)
    (hsql : ∀ x ∈ e.children, x.isColumnRooted = true → ∀ g, f x = .ok g → g.isSql = true) :
    (c.compileNode depth f e).Avoids CompileError.ofReceiver := by
  cases e with
  | lambda params body =>
    rw [compileNode]
    split
    · exact trueColumn_avoids body
    · exact h body List.mem_cons_self
  | member owner name declaring type =>
    rw [compileNode]
    split
    · exact column_avoids _
    · exact foldNative_avoids _
  | staticMember owner name type => exact foldNative_avoids _
  | constant v type =>
    rw [compileNode]
    split
    · exact Except.avoids_ok _
    · exact foldNative_avoids _
  | parameter name type => exact Except.avoids_ok _
  | binary op left right =>
    have hleft := h left (by simp [Expr.children])
    have hright := h right (by simp [Expr.children])
    cases hop : op.isLogical with
    | true =>
      simp [compileNode_connective hop, connectiveOperand_avoids hleft,
        connectiveOperand_avoids hright]
    | false => simp [compileNode_operator hop, hleft, hright]
  | unary op operand type via =>
    rw [compileNode]
    split
    · exact foldNative_avoids _
    · simp [h operand List.mem_cons_self]
  | call target method args owner type =>
    have hargs : ∀ x ∈ args, (f x).Avoids CompileError.ofReceiver :=
      fun x hx => h x (List.mem_cons_of_mem _ hx)
    rcases compileNode_call c depth target method args owner type f with
      ⟨collection, item, hs, hc⟩ | ⟨-, hroot, hc⟩ | ⟨-, -, hc⟩ <;> rw [hc]
    · exact containment_avoids (h item (Expr.mem_children_of_search hs).2)
    · -- the one step that looks at what its receiver became
      have htarget : target ∈ (Expr.call target method args owner type).children :=
        List.mem_cons_self
      refine columnMethod_avoids method (h target htarget) (hsql target htarget hroot) ?_
      simpa using hargs
    · exact foldNative_avoids _
  | staticCall owner method args type =>
    rcases compileNode_staticCall c depth owner method args type f with
      ⟨k, first, rest, -, rfl, hc⟩ | ⟨collection, item, hs, hc⟩ | ⟨-, hc⟩ <;> rw [hc]
    · exact applyM_avoids k rest (h first List.mem_cons_self)
    · exact containment_avoids (h item (Expr.mem_children_of_search hs).2)
    · exact foldNative_avoids _
  | new | newArray | memberInit =>
    rw [compileNode_construction rfl]
    exact construction_avoids (by simpa using h)

/-- No compilation ends in the failure for receivers. -/
theorem compileAt_avoids (e : Expr) : (c.compileAt depth e).Avoids CompileError.ofReceiver := by
  induction e using Expr.induction_children generalizing depth with
  | step e ih =>
    rw [compileAt_eq]
    split
    · simp
    · -- a child that is rooted in a column is SQL, so no receiver is a value
      exact compileNode_avoids (fun x hx => ih x hx)
        fun x _ hroot g hg => isSql_of_isColumnRooted hroot hg

/-- **A receiver on a column is never a value.**  At every depth, the evaluator fails for what is
rooted in a column, whatever the host answers, and the compiler does not make a value of it.  So no
expression fails for a receiver that did not become SQL, or with the wording of this failure. -/
theorem receiver_never_native (c : Context) :
    (∀ r : Expr, r.isColumnRooted = true →
      (∀ (env : Environment) (limit depth : Nat),
        (∃ name, r.evaluateAt env limit depth = .error (.invalidOperation (.freeParameter name))) ∨
          r.evaluateAt env limit depth = .error (.depthExceeded limit)) ∧
      ∀ (depth : Nat) (v : Value), c.compileAt depth r ≠ .ok (.native v)) ∧
    ∀ (e : Expr) (depth : Nat) (cause : CompileError), c.compileAt depth e = .error cause →
      ∀ method text, cause.message ≠ (CompileError.malformed (.receiver method text)).message := by
  refine ⟨fun r hr => ⟨fun env limit depth => r.evaluateAt_rooted env limit depth hr,
    fun depth v h => ?_⟩, fun e depth cause h => ?_⟩
  · cases isSql_of_isColumnRooted hr h
  · exact CompileError.message_ne_of_avoids (compileAt_avoids e) h

/-- A host that answers every call is not asked to convert a column: the evaluator fails for the
query parameter, and with it the method on the converted column. -/
theorem receiver_never_native_converted :
    let c := { bare .generic with
      env := { Environment.none .nil with callMethod := fun _ _ _ _ => some (.ok (.string "A")) } }
    let trimmed := Expr.call orderName "Trim" [] .string .string
    let r := Expr.unary .convert trimmed .string (some "Normalize")
    let cause := CompileError.evaluation (.invalidOperation (.freeParameter "o"))
    (r.isColumnRooted = true ∧
      c.compile trimmed =
        .ok (.sql ("ltrim(rtrim(" ++ Dialect.generic.quoteIdentifier "Name" ++ "))")) ∧
      c.compile (.call r "ToUpper" [] .string .string) = .error cause) ∧
    (∃ name, r.evaluateAt c.env 256 0 = .error (.invalidOperation (.freeParameter name))) ∧
    (∀ depth v, c.compileAt depth r ≠ .ok (.native v)) ∧
    cause.message ≠ (CompileError.malformed (.receiver "ToUpper" r.text)).message := by
  intro c trimmed r cause
  have hr : r.isColumnRooted = true := rfl
  have hcause : c.compile (.call r "ToUpper" [] .string .string) = .error cause := rfl
  obtain ⟨hrooted, hmessage⟩ := receiver_never_native c
  obtain ⟨hevaluate, hnative⟩ := hrooted r hr
  refine ⟨⟨hr, rfl, hcause⟩, (hevaluate c.env 256 0).resolve_right ?_, hnative,
    hmessage _ 0 cause hcause "ToUpper" r.text⟩
  have hvalue : r.evaluateAt c.env 256 0 = .error (.invalidOperation (.freeParameter "o")) := rfl
  rw [hvalue]
  simp

end Context

end QueryClause
