import QueryClause.Proofs.Compile.Node

/-!
# Two compilations side by side

Some properties of the compiler are about two compilations of one expression: for two targets, under
two limits, with two schemas.  A `Likeness` says when their results count as related, and the
lemmas below take both compilations through each kind of step at once.

They come down to one lemma: a step makes related fragments of related ones
(`Context.compileNode_related`), as no decision looks at the text of a fragment.  What is left to a
property is what the two compute of an expression and what they make of a column.
-/

namespace QueryClause

/-! ### Results that differ in texts -/

/-- The same failure, but for the text of a column. -/
inductive EvalError.Alike : EvalError → EvalError → Prop
  | refl (e : EvalError) : Alike e e
  | negativePart (method column column' : String) :
    Alike (.invalidArgument (.negativePart method column))
      (.invalidArgument (.negativePart method column'))

/-- The same fault, but for the text of a column. -/
inductive Malformed.Alike : Malformed → Malformed → Prop
  | refl (m : Malformed) : Alike m m
  | missingArgument (method column column' : String) (position : Nat) :
    Alike (.missingArgument method column position) (.missingArgument method column' position)

/-- The same failure, but for the text of a column. -/
inductive CompileError.Alike : CompileError → CompileError → Prop
  | unsupported (method column column' : String) :
    Alike (.unsupported method column) (.unsupported method column')
  | evaluation {e e' : EvalError} (h : e.Alike e') : Alike (.evaluation e) (.evaluation e')
  | malformed {m m' : Malformed} (h : m.Alike m') : Alike (.malformed m) (.malformed m')
  | depthExceeded (limit : Nat) : Alike (.depthExceeded limit) (.depthExceeded limit)

theorem CompileError.Alike.refl (e : CompileError) : e.Alike e := by
  cases e with
  | unsupported method column => exact .unsupported method column column
  | evaluation cause => exact .evaluation (.refl cause)
  | malformed cause => exact .malformed (.refl cause)
  | depthExceeded limit => exact .depthExceeded limit

/-- Whether the failure is that of a depth limit. -/
def CompileError.isLimit : CompileError → Bool
  | depthExceeded _ => true
  | _ => false

/-- Fragments of the same kind that differ at most in the text of SQL. -/
inductive Fragment.Alike : Fragment → Fragment → Prop
  | sql (text text' : String) : Alike (.sql text) (.sql text')
  | enumColumn (text text' : String) (e : EnumType) :
    Alike (.enumColumn text e) (.enumColumn text' e)
  | native (v : Value) : Alike (.native v) (.native v)

theorem Fragment.Alike.isSql_eq {f g : Fragment} (h : f.Alike g) : f.isSql = g.isSql := by
  cases h <;> rfl

theorem Fragment.Alike.refl (f : Fragment) : f.Alike f := by
  cases f with
  | sql text => exact .sql text text
  | enumColumn text e => exact .enumColumn text text e
  | native v => exact .native v

/-! ### Related results -/

/-- When the results of two compilations count as related. -/
structure Likeness where
  /-- Whether texts have to be the same. -/
  sameText : Prop
  /-- Whether both may fail for a depth limit. -/
  limits : Prop
  /-- The limits whose failure in the first compilation is related to every result of the second. -/
  stops : Nat → Prop

namespace Likeness

variable {k : Likeness}

/-- Texts that are related, as all are if they may differ. -/
def Texts (k : Likeness) (text text' : String) : Prop := k.sameText → text = text'

/-- Failures that are related. -/
structure Failures (k : Likeness) (e e' : CompileError) : Prop where
  alike : e.Alike e'
  same : k.sameText → e = e'
  limit : e.isLimit = true → k.limits

/-- Fragments that are related. -/
structure Fragments (k : Likeness) (f f' : Fragment) : Prop where
  alike : f.Alike f'
  same : k.sameText → f = f'

/-- Results that are related, where `R` relates their contents. -/
inductive Related (k : Likeness) {α β : Type} (R : α → β → Prop) :
    Except CompileError α → Except CompileError β → Prop
  | ok {a : α} {b : β} (h : R a b) : Related k R (.ok a) (.ok b)
  | error {e e' : CompileError} (h : k.Failures e e') : Related k R (.error e) (.error e')
  | stop {n : Nat} {y : Except CompileError β} (h : k.stops n) :
    Related k R (.error (.depthExceeded n)) y

/-- Two compilations that write the same texts, if these have to be the same. -/
structure Writers (k : Likeness) (c c' : Context) : Prop where
  target : k.sameText → c.target = c'.target
  exactCase : k.sameText → c.options.exactCase = c'.options.exactCase

namespace Fragments

variable {f f' : Fragment}

theorem refl (f : Fragment) : k.Fragments f f := ⟨.refl f, fun _ => rfl⟩

theorem sql {text text' : String} (h : k.Texts text text') :
    k.Fragments (.sql text) (.sql text') :=
  ⟨.sql text text', fun hs => congrArg Fragment.sql (h hs)⟩

end Fragments

namespace Related

variable {α β γ δ : Type} {R : α → β → Prop} {S : γ → δ → Prop}

theorem refl {R : α → α → Prop} {x : Except CompileError α} (h : ∀ a, R a a)
    (hx : ∀ e, x = .error e → e.isLimit = true → k.limits) : k.Related R x x := by
  cases x with
  | ok a => exact .ok (h a)
  | error e => exact .error ⟨.refl e, fun _ => rfl, hx e rfl⟩

/-- Failures alike, for other reasons than a depth limit. -/
theorem failed {e e' : CompileError} (h : e.Alike e') (hsame : k.sameText → e = e')
    (hlimit : e.isLimit = false) : k.Related R (.error e) (.error e') :=
  .error ⟨h, hsame, fun h => by simp [hlimit] at h⟩

theorem failed_same {e : CompileError} (h : e.isLimit = false) :
    k.Related R (.error e) (.error e) :=
  failed (.refl e) (fun _ => rfl) h

theorem bind {x : Except CompileError α} {y : Except CompileError β}
    {f : α → Except CompileError γ} {g : β → Except CompileError δ} (h : k.Related R x y)
    (hf : ∀ a b, R a b → k.Related S (f a) (g b)) : k.Related S (x >>= f) (y >>= g) := by
  cases h with
  | ok h => exact hf _ _ h
  | error h => exact .error h
  | stop h => exact .stop h

/-- After two results with the same content. -/
theorem bind_eq {x y : Except CompileError α} {f : α → Except CompileError γ}
    {g : α → Except CompileError δ} (h : k.Related Eq x y)
    (hf : ∀ a, k.Related S (f a) (g a)) : k.Related S (x >>= f) (y >>= g) :=
  h.bind fun a _ hab => hab ▸ hf a

theorem map {x : Except CompileError α} {y : Except CompileError β} {f : α → γ} {g : β → δ}
    (h : k.Related R x y) (hf : ∀ a b, R a b → S (f a) (g b)) :
    k.Related S (x.map f) (y.map g) := by
  cases h with
  | ok h => exact .ok (hf _ _ h)
  | error h => exact .error h
  | stop h => exact .stop h

theorem ite {p : Prop} [Decidable p] {x x' : Except CompileError α} {y y' : Except CompileError β}
    (h : p → k.Related R x y) (h' : ¬ p → k.Related R x' y') :
    k.Related R (if p then x else x') (if p then y else y') := by
  split
  · exact h ‹_›
  · exact h' ‹_›

theorem ofValue (r : Except EvalError Value) :
    k.Related k.Fragments (Compiled.ofValue r) (Compiled.ofValue r) := by
  cases r with
  | ok v => exact .ok (.refl _)
  | error e => exact .failed_same rfl

end Related

end Likeness

namespace Context

variable {k : Likeness} {c c' : Context} {depth : Nat} {e : Expr} {f g : Expr → Compiled}
  {l l' r r' : Fragment}

/-! ### What is computed -/

theorem foldNative_related (h : k.Related Eq (c.fold e) (c'.fold e)) :
    k.Related k.Fragments (c.foldNative e) (c'.foldNative e) :=
  h.map fun _ _ hv => hv ▸ .refl _

theorem mapM_fold_related {es : List Expr} (h : ∀ x ∈ es, k.Related Eq (c.fold x) (c'.fold x)) :
    k.Related Eq (es.mapM c.fold) (es.mapM c'.fold) := by
  induction es with
  | nil => exact .ok rfl
  | cons e rest ih =>
    rw [List.mapM_cons, List.mapM_cons]
    refine (h e List.mem_cons_self).bind_eq fun v => ?_
    exact (ih fun x hx => h x (List.mem_cons_of_mem _ hx)).bind_eq fun vs => .ok rfl

/-! ### Columns -/

theorem isTrue_related (hw : k.Writers c c') (hl : k.Fragments l l') :
    k.Texts (c.isTrue l) (c'.isTrue l') := fun hs => by
  rw [isTrue, isTrue, hl.same hs, hw.target hs]

theorem trueColumn_related (hw : k.Writers c c')
    (h : k.Related k.Fragments (c.column e) (c'.column e)) :
    k.Related k.Fragments (c.trueColumn e) (c'.trueColumn e) :=
  h.map fun _ _ hl => .sql (isTrue_related hw hl)

theorem connectiveOperand_related (hw : k.Writers c c')
    (hcolumn : e.isColumn = true → k.Related k.Fragments (c.column e) (c'.column e))
    (h : k.Related k.Fragments (f e) (g e)) :
    k.Related k.Fragments (c.connectiveOperand f e) (c'.connectiveOperand g e) :=
  .ite (fun he => trueColumn_related hw (hcolumn he)) fun _ => h

/-! ### Operators -/

theorem operator_related {op : BinaryOp} {leftType rightType : HostType} (hw : k.Writers c c')
    (hl : k.Fragments l l') (hr : k.Fragments r r') :
    k.Related k.Fragments (c.operator op leftType rightType l r)
      (c'.operator op leftType rightType l' r') := by
  have hsame : k.sameText → c.operator op leftType rightType l r =
      c'.operator op leftType rightType l' r' := fun hs => by
    rw [hl.same hs, hr.same hs]
    unfold operator adapted coerced
    rw [hw.target hs]
  cases hl.alike with
  | native a =>
    cases hr.alike with
    | native b => exact .ofValue _
    | _ => exact .ok ⟨.sql _ _, fun hs => Except.ok.inj (hsame hs)⟩
  | _ => cases hr.alike <;> exact .ok ⟨.sql _ _, fun hs => Except.ok.inj (hsame hs)⟩

theorem condition_related (hw : k.Writers c c') (hl : k.Fragments l l') :
    k.Related k.Texts (c.condition l) (c'.condition l') := by
  cases hl.alike with
  | native v =>
    unfold condition
    split
    · exact .ok fun hs => by rw [hw.target hs]
    · exact .ok fun hs => by rw [hw.target hs]
    · exact .failed_same rfl
    · exact .ok fun hs => by rw [hw.target hs]
  | _ => exact .ok fun hs => by rw [hl.same hs, hw.target hs]

theorem connective_related {op : BinaryOp} (hw : k.Writers c c')
    (hfold : k.Related Eq (c.fold e) (c'.fold e)) (hl : k.Fragments l l')
    (hr : k.Fragments r r') :
    k.Related k.Fragments (c.connective e op l r) (c'.connective e op l' r') := by
  rw [connective_eq, connective_eq, ← hl.alike.isSql_eq, ← hr.alike.isSql_eq]
  refine .ite (fun _ => ?_) fun _ => hfold.bind_eq fun v => .ok (.sql fun hs => ?_)
  · refine (condition_related hw hl).bind fun s s' hs => ?_
    refine (condition_related hw hr).bind fun t t' ht => .ok (.sql fun h => ?_)
    rw [hs h, ht h]
  · rw [hw.target hs]

theorem unaryOperator_related {op : UnaryOp} {type : HostType} {ofColumn : Bool}
    (hw : k.Writers c c') (hl : k.Fragments l l') :
    k.Related k.Fragments (c.unaryOperator op type ofColumn l)
      (c'.unaryOperator op type ofColumn l') := by
  cases hl.alike with
  | native v => exact .ofValue _
  | sql | enumColumn =>
    simp only [unaryOperator]
    refine .ite (fun _ => .ok (.sql fun hs => ?_)) fun _ => .ok hl
    rw [isTrue_related hw hl hs, hl.same hs, hw.target hs]

/-! ### Calls -/

theorem inList_related (values : Value) (hw : k.Writers c c') (hl : k.Fragments l l') :
    k.Fragments (c.inList values l) (c'.inList values l') :=
  .sql fun hs => by
    unfold candidateText
    rw [hl.same hs, hw.target hs]

theorem containment_related {collection item : Expr} (hw : k.Writers c c')
    (hfold : k.Related Eq (c.fold e) (c'.fold e))
    (hcollection : k.Related Eq (c.fold collection) (c'.fold collection))
    (h : k.Related k.Fragments (f item) (g item)) :
    k.Related k.Fragments (c.containment e collection (f item))
      (c'.containment e collection (g item)) := by
  refine h.bind fun l l' hl => ?_
  rw [← hl.alike.isSql_eq]
  refine .ite (fun _ => ?_) fun _ => foldNative_related hfold
  exact hcollection.bind_eq fun v => .ok (inList_related v hw hl)

theorem nativeArg_related {method column column' : String} {args : List Expr} (i : Nat)
    (hcolumn : k.Texts column column')
    (h : ∀ x ∈ args, k.Related k.Fragments (f x) (g x)) :
    k.Related Eq (nativeArg method column (args.map f) i)
      (nativeArg method column' (args.map g) i) := by
  rw [nativeArg, nativeArg, List.getElem?_map, List.getElem?_map]
  cases hx : args[i]? with
  | none => exact .failed (.malformed (.missingArgument _ _ _ _)) (fun hs => by rw [hcolumn hs]) rfl
  | some x =>
    refine (h x (List.mem_of_getElem? hx)).bind fun a b hab => ?_
    cases hab.alike with
    | native v => exact .ok rfl
    | _ => exact .failed (.unsupported _ _ _) (fun hs => by rw [hcolumn hs]) rfl

theorem intArg_related {method column column' : String} {args : List Expr} (i : Nat)
    (hcolumn : k.Texts column column')
    (h : ∀ x ∈ args, k.Related k.Fragments (f x) (g x)) :
    k.Related Eq (intArg method column (args.map f) i) (intArg method column' (args.map g) i) := by
  refine (nativeArg_related i hcolumn h).bind_eq fun v => ?_
  split
  · exact .ok rfl
  · exact .failed_same rfl

theorem substring_related {column column' : String} (start : Int64) (length : Option Int64)
    (hcolumn : k.Texts column column') :
    k.Related k.Texts (substring column start length) (substring column' start length) := by
  unfold substring
  refine .ite (fun _ => ?_) fun _ => .ite (fun _ => .failed_same rfl) fun _ => .ok fun hs => ?_
  · exact .failed (.evaluation (.negativePart _ _ _)) (fun hs => by rw [hcolumn hs]) rfl
  · rw [hcolumn hs]

theorem likeMethod_related {method column column' : String} {place : LikePlace} {args : List Expr}
    (hw : k.Writers c c') (hcolumn : k.Texts column column')
    (h : ∀ x ∈ args, k.Related k.Fragments (f x) (g x)) :
    k.Related k.Texts (c.likeMethod method place column (args.map f))
      (c'.likeMethod method place column' (args.map g)) :=
  (nativeArg_related 0 hcolumn h).bind_eq fun v => .ok fun hs => by
    rw [hw.target hs, hw.exactCase hs, hcolumn hs]

theorem columnMethodText_related {method column column' : String} {args : List Expr}
    (hw : k.Writers c c') (hcolumn : k.Texts column column')
    (h : ∀ x ∈ args, k.Related k.Fragments (f x) (g x)) :
    k.Related k.Texts (c.columnMethodText column method (args.map f))
      (c'.columnMethodText column' method (args.map g)) := by
  unfold columnMethodText
  split
  case h_6 | h_7 | h_8 => exact likeMethod_related hw hcolumn h
  case h_9 =>
    refine (intArg_related 0 hcolumn h).bind_eq fun start => ?_
    rw [List.length_map, List.length_map]
    split
    · exact substring_related start none hcolumn
    · have hlength : k.Related Eq (some <$> intArg "Substring" column (args.map f) 1)
          (some <$> intArg "Substring" column' (args.map g) 1) :=
        (intArg_related 1 hcolumn h).map fun _ _ => congrArg some
      exact hlength.bind_eq fun length => substring_related start length hcolumn
  case h_10 => exact .failed (.unsupported _ _ _) (fun hs => by rw [hcolumn hs]) rfl
  all_goals exact .ok fun hs => by rw [hcolumn hs]

theorem columnMethod_related {receiver : Expr} {method : String} {args : List Expr}
    (hw : k.Writers c c') (hr : k.Related k.Fragments (f receiver) (g receiver))
    (h : ∀ x ∈ args, k.Related k.Fragments (f x) (g x)) :
    k.Related k.Fragments (c.columnMethod receiver method (f receiver) (args.map f))
      (c'.columnMethod receiver method (g receiver) (args.map g)) := by
  refine hr.bind fun l l' hl => ?_
  have hcolumn : k.Texts (l.render c.target) (l'.render c'.target) := fun hs => by
    rw [hl.same hs, hw.target hs]
  cases hl.alike with
  | native v => exact .failed_same rfl
  | _ => exact (columnMethodText_related hw hcolumn h).bind fun t t' ht => .ok (.sql ht)

theorem argText_related (hw : k.Writers c c') (hl : k.Fragments l l') :
    k.Texts (Helper.argText c l) (Helper.argText c' l') := fun hs => by
  unfold Helper.argText
  rw [hl.same hs, hw.target hs]

theorem applyM_related (helper : Helper) {first : Expr} {rest : List Expr} (hw : k.Writers c c')
    (hfold : ∀ x ∈ rest, k.Related Eq (c.fold x) (c'.fold x))
    (h : k.Related k.Fragments (f first) (g first)) :
    k.Related k.Fragments (helper.applyM c.fold c (f first) rest)
      (helper.applyM c'.fold c' (g first) rest) := by
  refine h.bind fun l l' hl => ?_
  have htext := argText_related hw hl
  cases helper with
  | around before after => exact .ok (.sql fun hs => by rw [htext hs])
  | among => exact (mapM_fold_related hfold).bind_eq fun vs => .ok (inList_related _ hw hl)
  | named =>
    cases rest with
    | nil => exact .failed_same rfl
    | cons x rest =>
      refine (hfold x List.mem_cons_self).bind_eq fun v => .ok (.sql fun hs => ?_)
      rw [htext hs, hw.target hs]

/-! ### Constructions -/

theorem partTexts_related {es : List Expr} (hw : k.Writers c c')
    (h : ∀ x ∈ es, k.Related k.Fragments (f x) (g x)) :
    k.Related (fun ts ts' => k.sameText → ts = ts')
      (c.partTexts (es.map fun x => (x.staticType, f x)))
      (c'.partTexts (es.map fun x => (x.staticType, g x))) := by
  induction es with
  | nil => exact .ok fun _ => rfl
  | cons e rest ih =>
    refine (h e List.mem_cons_self).bind fun l l' hl => ?_
    refine (ih fun x hx => h x (List.mem_cons_of_mem _ hx)).bind fun ts ts' hts => .ok fun hs => ?_
    rw [hl.same hs, hw.target hs, hts hs]

theorem construction_related (hw : k.Writers c c') (hfold : k.Related Eq (c.fold e) (c'.fold e))
    (h : ∀ x ∈ e.children, k.Related k.Fragments (f x) (g x)) :
    k.Related k.Fragments
      (c.construction e fun _ => e.children.map fun x => (x.staticType, f x))
      (c'.construction e fun _ => e.children.map fun x => (x.staticType, g x)) := by
  rw [construction_eq, construction_eq]
  generalize c.fold e = x at hfold
  generalize c'.fold e = y at hfold
  cases hfold with
  | ok hv => subst hv; exact .ok (.refl _)
  | stop hn => exact .stop hn
  | error hfail =>
    cases hfail.alike with
    | evaluation halike =>
      cases halike with
      | refl =>
        rename_i cause
        cases cause with
        -- the one cause after which a construction tries its parts
        | invalidOperation =>
          refine (partTexts_related hw h).bind fun ts ts' hts => .ok (.sql fun hs => ?_)
          rw [hts hs]
        | _ => exact .error hfail
      | negativePart => exact .error hfail
    | _ => exact .error hfail

/-! ### Expressions -/

/-- A step makes related fragments of related ones. -/
theorem compileNode_related (hw : k.Writers c c')
    (hclause : depth = 0 → e.isColumnLambda = true → c.clause = c'.clause)
    (hcolumn : ∀ x ∈ e :: e.children, x.isColumn = true →
      k.Related k.Fragments (c.column x) (c'.column x))
    (hfold : ∀ x ∈ e :: e.children, k.Related Eq (c.fold x) (c'.fold x))
    (h : ∀ x ∈ e.children, k.Related k.Fragments (f x) (g x)) :
    k.Related k.Fragments (c.compileNode depth f e) (c'.compileNode depth g e) := by
  have hnode := hfold e List.mem_cons_self
  have hchild : ∀ x ∈ e.children, k.Related Eq (c.fold x) (c'.fold x) :=
    fun x hx => hfold x (List.mem_cons_of_mem _ hx)
  have hoperand : ∀ x ∈ e.children, x.isColumn = true →
      k.Related k.Fragments (c.column x) (c'.column x) :=
    fun x hx => hcolumn x (List.mem_cons_of_mem _ hx)
  cases e with
  | lambda params body =>
    have hbody := h body List.mem_cons_self
    rw [compileNode, compileNode]
    cases hcol : body.isColumn with
    | false => simpa using hbody
    | true =>
      cases depth with
      -- the root is the one place where the clause decides
      | zero =>
        rw [hclause rfl hcol]
        exact .ite (fun _ => trueColumn_related hw (hoperand body List.mem_cons_self hcol))
          fun _ => hbody
      | succ n => exact hbody
  | member owner name declaring type =>
    exact .ite (hcolumn _ List.mem_cons_self) fun _ => foldNative_related hnode
  | staticMember owner name type => exact foldNative_related hnode
  | constant v type =>
    exact .ite (fun _ => .ok (.refl _)) fun _ => foldNative_related hnode
  | parameter name type => exact .ok (.refl _)
  | binary op left right =>
    have hleft : left ∈ (Expr.binary op left right).children := by simp [Expr.children]
    have hright : right ∈ (Expr.binary op left right).children := by simp [Expr.children]
    cases hop : op.isLogical with
    | true =>
      rw [compileNode_connective hop, compileNode_connective hop]
      refine (connectiveOperand_related hw (hoperand left hleft) (h left hleft)).bind
        fun l l' hl => ?_
      exact (connectiveOperand_related hw (hoperand right hright) (h right hright)).bind
        fun r r' hr => connective_related hw hnode hl hr
    | false =>
      rw [compileNode_operator hop, compileNode_operator hop]
      refine (h left hleft).bind fun l l' hl => ?_
      exact (h right hright).bind fun r r' hr => operator_related hw hl hr
  | unary op operand type via =>
    refine .ite (fun _ => foldNative_related hnode) fun _ => ?_
    exact (h operand List.mem_cons_self).bind fun l l' hl => unaryOperator_related hw hl
  | call receiver method args owner type =>
    have hargs : ∀ x ∈ args, k.Related k.Fragments (f x) (g x) :=
      fun x hx => h x (List.mem_cons_of_mem _ hx)
    unfold compileNode
    dsimp only
    split
    · exact containment_related hw hnode (hchild _ List.mem_cons_self) (hargs _ List.mem_cons_self)
    · exact .ite (fun _ => columnMethod_related hw (h receiver List.mem_cons_self) hargs)
        fun _ => foldNative_related hnode
  | staticCall owner method args type =>
    unfold compileNode
    dsimp only
    split
    · exact applyM_related _ hw (fun x hx => hchild x (List.mem_cons_of_mem _ hx))
        (h _ List.mem_cons_self)
    · refine .ite (fun _ => ?_) fun _ => foldNative_related hnode
      exact containment_related hw hnode (hchild _ List.mem_cons_self)
        (h _ (List.mem_cons_of_mem _ List.mem_cons_self))
    · exact foldNative_related hnode
  | new | newArray | memberInit => exact construction_related hw hnode h

/-- Compilations under one limit give related fragments. -/
theorem compileAt_related (hw : k.Writers c c') (hlimits : k.limits)
    (hmax : c.options.maxDepth = c'.options.maxDepth)
    (hclause : depth = 0 → e.isColumnLambda = true → c.clause = c'.clause)
    (hcolumn : ∀ x, Expr.Occurs x e → x.isColumn = true →
      k.Related k.Fragments (c.column x) (c'.column x))
    (hfold : ∀ x, Expr.Occurs x e → k.Related Eq (c.fold x) (c'.fold x)) :
    k.Related k.Fragments (c.compileAt depth e) (c'.compileAt depth e) := by
  induction e using Expr.induction_children generalizing depth with
  | step e ih =>
    have hoccurs : ∀ x ∈ e :: e.children, Expr.Occurs x e := fun x hx => by
      rcases List.mem_cons.1 hx with rfl | hx
      · exact .root
      · exact .child hx .root
    rw [compileAt_eq, compileAt_eq, hmax]
    refine .ite (fun _ => .error ⟨.refl _, fun _ => rfl, fun _ => hlimits⟩) fun _ => ?_
    refine compileNode_related hw hclause (fun x hx => hcolumn x (hoccurs x hx))
      (fun x hx => hfold x (hoccurs x hx)) fun x hx => ?_
    exact ih x hx (fun h => absurd h (Nat.succ_ne_zero depth))
      (fun y hy => hcolumn y (.child hx hy)) fun y hy => hfold y (.child hx hy)

end Context

end QueryClause
