import QueryClause.Proofs.Sql.Token

/-!
# Precedence of operators in SQL

`SqlTree.read?` reads a text by the precedence of its operators: multiplication and division bind
most tightly, then addition and subtraction, comparisons and `IS`, negation, `AND`, and `OR`.  It
keeps what is not complete on a stack (`SqlParser`).  Whether `NOT` may stand behind an operator
that binds more tightly, as in `a = NOT b`, is a choice of the reader.

`OperatorTree` is what a host expression of operators over columns comes to, and
`OperatorTree.write` is its text.  Different expressions have different trees
(`OperatorTree.sql_inj`), but the text need not be read as its own
(`OperatorTree.read?_write_eq`, `OperatorTree.read?_write_iff`).
-/

namespace QueryClause

/-! ### The reader -/

/-- An expression of SQL, without its parentheses. -/
inductive SqlTree where
  | leaf (x : SqlLeaf)
  | not (x : SqlTree)
  | binary (o : SqlOperator) (left right : SqlTree)
  deriving DecidableEq, Repr

/-- The precedence of an operator: the higher one binds more tightly. -/
def TreeOp.level : TreeOp → Nat
  | multiply | divide => 5
  | add | subtract => 4
  | compare _ => 3
  | and => 1
  | or => 0

/-- The precedence of an operator of SQL. -/
def SqlOperator.level : SqlOperator → Nat
  | tree o => o.level
  | is | isNot => 3

/-- The precedence of a negation. -/
def SqlTree.notLevel : Nat := 2

/-- What waits for an operand, or for the end of a parenthesis. -/
inductive Frame where
  | paren
  | not
  | left (o : SqlOperator) (x : SqlTree)
  deriving DecidableEq, Repr

/-- The state of the reader: it expects an operand, or it has one. -/
inductive SqlParser where
  | expects (stack : List Frame)
  | has (x : SqlTree) (stack : List Frame)
  deriving DecidableEq, Repr

namespace SqlParser

/-- An operand with all that binds it at least as tightly as a level. -/
def reduce (level : Nat) (x : SqlTree) : List Frame → SqlTree × List Frame
  | .not :: stack =>
    if level ≤ SqlTree.notLevel then reduce level (.not x) stack else (x, .not :: stack)
  | .left o l :: stack =>
    if level ≤ o.level then reduce level (.binary o l x) stack else (x, .left o l :: stack)
  | stack => (x, stack)

/-- The state after a negation.  Behind `IS` it belongs to the operator; `nested` lets it stand
behind an operator that binds more tightly. -/
def negation? (nested : Bool) : List Frame → Option SqlParser
  | .left .is x :: stack => some (expects (.left .isNot x :: stack))
  | .left o x :: stack =>
    if nested || decide (o.level < SqlTree.notLevel) then
      some (expects (.not :: .left o x :: stack))
    else none
  | stack => some (expects (.not :: stack))

/-- The state after a token. -/
def step? (nested : Bool) (st : SqlParser) (t : SqlToken) : Option SqlParser :=
  match st with
  | expects stack =>
    match t with
    | .not => negation? nested stack
    | .open => some (expects (.paren :: stack))
    | .leaf x => some (has (.leaf x) stack)
    | _ => none
  | has x stack =>
    match t with
    | .operator o =>
      let r := reduce o.level x stack
      some (expects (.left o r.1 :: r.2))
    | .close =>
      match reduce 0 x stack with
      | (x, .paren :: stack) => some (has x stack)
      | _ => none
    | _ => none

/-- The expression that has been read, at the end. -/
def finish? : SqlParser → Option SqlTree
  | has x stack =>
    match reduce 0 x stack with
    | (x, []) => some x
    | _ => none
  | expects _ => none

/-- The state after some tokens. -/
def run? (nested : Bool) (st : SqlParser) (ts : List SqlToken) : Option SqlParser :=
  ts.foldlM (step? nested) st

end SqlParser

/-- The expression that a text is. -/
def SqlTree.read? (nested : Bool) (s : String) : Option SqlTree := do
  let st ← SqlParser.run? nested (.expects []) (← SqlToken.read? s)
  st.finish?

/-! ### Trees of operators -/

namespace TreeOp

/-- The operator of host expressions. -/
def op : TreeOp → BinaryOp
  | multiply => .multiply
  | divide => .divide
  | add => .add
  | subtract => .subtract
  | compare o => o.op
  | and => .andAlso
  | or => .orElse

/-- Whether the operands are conditions. -/
def isConnective : TreeOp → Bool
  | and | or => true
  | _ => false

theorem isLogical_op (o : TreeOp) : o.op.isLogical = o.isConnective := by
  cases o with
  | compare o => cases o <;> rfl
  | _ => rfl

/-- The connectives bind less tightly than a negation, and all else binds more tightly. -/
theorem level_le_iff (o : TreeOp) : o.level ≤ SqlTree.notLevel ↔ o.isConnective = true := by
  cases o <;> simp [level, SqlTree.notLevel, isConnective]

theorem level_lt_iff (o : TreeOp) : o.level < SqlTree.notLevel ↔ o.isConnective = true := by
  cases o <;> simp [level, SqlTree.notLevel, isConnective]

end TreeOp

/-- An expression of operators over columns. -/
inductive OperatorTree where
  | column (p : ColumnPath)
  | not (x : OperatorTree)
  | binary (o : TreeOp) (left right : OperatorTree)
  deriving DecidableEq, Repr

namespace OperatorTree

/-- The text of an expression; as a condition, a column is compared with true. -/
def write (condition : Bool) : OperatorTree → String
  | column p => p.text ++ if condition then "=true" else ""
  | not x => "NOT (" ++ x.write true ++ ")"
  | binary o l r =>
    "(" ++ l.write o.isConnective ++ " " ++ o.op.sqlToken ++ " " ++ r.write o.isConnective ++ ")"

/-- The expression of SQL that has the same operators over the same columns. -/
def sql (condition : Bool) : OperatorTree → SqlTree
  | column p =>
    let x := SqlTree.leaf (.column p.identifiers)
    if condition then .binary (.tree (.compare .equal)) x (.leaf (.literal "true")) else x
  | not x => .not (x.sql true)
  | binary o l r => .binary (.tree o) (l.sql o.isConnective) (r.sql o.isConnective)

/-- The tokens of an expression. -/
def tokens (condition : Bool) : OperatorTree → List SqlToken
  | column p =>
    .leaf (.column p.identifiers) ::
      if condition then [.operator (.tree (.compare .equal)), .leaf (.literal "true")] else []
  | not x => .not :: .open :: (x.tokens true ++ [.close])
  | binary o l r =>
    .open :: (l.tokens o.isConnective ++
      .operator (.tree o) :: (r.tokens o.isConnective ++ [.close]))

/-- Whether the expression is a negation. -/
def isNot : OperatorTree → Bool
  | not _ => true
  | _ => false

variable {t : OperatorTree} {condition : Bool} {rest : List Char}

/-! ### Tokens -/

theorem read?_blank (rest : List Char) :
    Lexer.between.read? (' ' :: rest) = Lexer.between.read? rest :=
  Lexer.read?_cons_of_start rfl

theorem endsWord_nil : EndsWord [] := nofun

theorem endsWord_blank (rest : List Char) : EndsWord (' ' :: rest) := Layout.endsWord_cons rfl

theorem read?_open (rest : List Char) :
    Lexer.between.read? ('(' :: rest) = (Lexer.between.read? rest).map (.open :: ·) :=
  Lexer.read?_token (w := ['(']) rfl rfl fun _ _ => rfl

theorem read?_close (rest : List Char) :
    Lexer.between.read? (')' :: rest) = (Lexer.between.read? rest).map (.close :: ·) :=
  Lexer.read?_token (w := [')']) rfl rfl fun _ _ => rfl

theorem read?_not (rest : List Char) :
    Lexer.between.read? ("NOT".toList ++ ' ' :: rest) =
      (Lexer.between.read? rest).map (.not :: ·) := by
  have htoken : Lexer.token? "NOT".toList = some (.word [] "NOT".toList) := by decide
  have hnot : (Lexer.word [] "NOT".toList).tokens? = some [.not] := by decide
  rw [← read?_blank rest]
  refine Lexer.read?_token htoken hnot fun c hc => ?_
  exact Lexer.extend?_word (endsWord_blank rest c hc)

theorem read?_true (h : EndsWord rest) :
    Lexer.between.read? ("=true".toList ++ rest) = (Lexer.between.read? rest).map
      ([.operator (.tree (.compare .equal)), .leaf (.literal "true")] ++ ·) := by
  have hchars : "=true".toList = '=' :: "true".toList := by decide
  have htoken : Lexer.token? "true".toList = some (.word [] "true".toList) := by decide
  have htrue : (Lexer.word [] "true".toList).tokens? = some [.leaf (.literal "true")] := by
    decide
  have hequals : Lexer.between.read? (['='] ++ ("true".toList ++ rest)) = _ :=
    Lexer.read?_token rfl rfl fun _ _ => rfl
  rw [hchars, List.cons_append]
  refine hequals.trans ?_
  rw [Lexer.read?_token htoken htrue fun c hc => Lexer.extend?_word (h c hc), Option.map_map]
  rfl

/-- The reader behind the word of an operator. -/
theorem token?_operator (o : TreeOp) :
    ∃ st, Lexer.token? o.op.sqlToken.toList = some st ∧ st.tokens? = some [.operator (.tree o)] ∧
      st.extend? ' ' = none := by
  refine ⟨(Lexer.token? o.op.sqlToken.toList).getD .between, ?_⟩
  cases o with
  | compare o => cases o <;> decide
  | _ => decide

theorem read?_operator (o : TreeOp) (rest : List Char) :
    Lexer.between.read? (o.op.sqlToken.toList ++ ' ' :: rest) =
      (Lexer.between.read? rest).map (.operator (.tree o) :: ·) := by
  obtain ⟨st, htoken, hout, hblank⟩ := token?_operator o
  rw [← read?_blank rest]
  refine Lexer.read?_token htoken hout fun c hc => ?_
  cases hc
  exact hblank

theorem read?_write (t : OperatorTree) (condition : Bool) (h : EndsWord rest) :
    Lexer.between.read? ((t.write condition).toList ++ rest) =
      (Lexer.between.read? rest).map (t.tokens condition ++ ·) := by
  induction t generalizing condition rest with
  | column p =>
    cases condition with
    | false =>
      have hcolumn := p.read?_text h
      simpa [write, tokens] using hcolumn
    | true =>
      -- as a condition, the name of the column ends before the equality sign
      have hequals : EndsWord ("=true".toList ++ rest) := Layout.endsWord_cons rfl
      have hcolumn := p.read?_text hequals
      rw [read?_true h, Option.map_map] at hcolumn
      rw [write, if_pos rfl, String.toList_append, List.append_assoc, hcolumn]
      rfl
  | not x ih =>
    have hclose := ih true (Layout.endsWord_cons (c := ')') (r := rest) rfl)
    have htext : ((not x).write condition).toList ++ rest =
        "NOT".toList ++ ' ' :: '(' :: ((x.write true).toList ++ ')' :: rest) := by
      simp [write]
    rw [htext, read?_not, read?_open, hclose, read?_close]
    simp [tokens, Function.comp_def]
  | binary o l r ihl ihr =>
    have hclose := ihr o.isConnective (Layout.endsWord_cons (c := ')') (r := rest) rfl)
    have htext : ((binary o l r).write condition).toList ++ rest =
        '(' :: ((l.write o.isConnective).toList ++ ' ' :: (o.op.sqlToken.toList ++
          ' ' :: ((r.write o.isConnective).toList ++ ')' :: rest))) := by
      simp [write]
    rw [htext, read?_open, ihl o.isConnective (endsWord_blank _), read?_blank, read?_operator,
      hclose, read?_close]
    simp [tokens, Function.comp_def]

/-- The text of an expression has its tokens. -/
theorem tokens_of_write (t : OperatorTree) (condition : Bool) :
    SqlToken.read? (t.write condition) = some (t.tokens condition) := by
  have hread := t.read?_write condition endsWord_nil
  rw [List.append_nil] at hread
  rw [SqlToken.read?, hread, Lexer.read?, Lexer.tokens?, Option.map_some, List.append_nil]

/-! ### Reading -/

/-- The expression of SQL that takes a negation on its left out, behind which it stands. -/
def takeOut (o : TreeOp) : SqlTree → SqlTree → SqlTree
  | .not x, r => .not (.binary (.tree o) x r)
  | l, r => .binary (.tree o) l r

/-- The expression of SQL that the text is read as: a negation on the left of an operator that binds
more tightly takes in the whole of it. -/
def asRead (condition : Bool) : OperatorTree → SqlTree
  | column p => (column p).sql condition
  | not x => .not (x.asRead true)
  | binary o l r =>
    let l' := l.asRead o.isConnective
    let r' := r.asRead o.isConnective
    if l.isNot && !o.isConnective then takeOut o l' r' else .binary (.tree o) l' r'

/-- Whether the text can be read: `nested` lets a negation stand behind an operator that binds more
tightly. -/
def isReadable (nested : Bool) : OperatorTree → Bool
  | column _ => true
  | not x => x.isReadable nested
  | binary o l r =>
    (nested || o.isConnective || !r.isNot) && l.isReadable nested && r.isReadable nested

/-- What the reader has behind an expression, on top of a stack. -/
def behind (condition : Bool) (stack : List Frame) : OperatorTree → SqlTree × List Frame
  | column p =>
    let x := SqlTree.leaf (.column p.identifiers)
    if condition then (.leaf (.literal "true"), .left (.tree (.compare .equal)) x :: stack)
    else (x, stack)
  | not x => (x.asRead true, .not :: stack)
  | t => (t.asRead condition, stack)

/-- The state of the reader behind an expression. -/
def stateBehind (condition : Bool) (stack : List Frame) (t : OperatorTree) : SqlParser :=
  .has (t.behind condition stack).1 (t.behind condition stack).2

open SqlParser

variable {nested : Bool} {stack : List Frame} {o : TreeOp} {l r : OperatorTree}

/-- What binds no more tightly than a negation finds the whole expression. -/
theorem reduce_behind {level : Nat} (t : OperatorTree) (condition : Bool) (stack : List Frame)
    (h : level ≤ SqlTree.notLevel) :
    reduce level (t.behind condition stack).1 (t.behind condition stack).2 =
      reduce level (t.asRead condition) stack := by
  cases t with
  | column p =>
    cases condition with
    | false => rfl
    | true =>
      have hlevel : level ≤ (SqlOperator.tree (.compare .equal)).level :=
        Nat.le_trans h (by decide)
      rw [behind, if_pos rfl]
      change reduce level _ (.left _ _ :: stack) = _
      rw [reduce, if_pos hlevel]
      rfl
  | not x =>
    -- the negation that waits is taken first
    change reduce level (x.asRead true) (.not :: stack) = _
    rw [reduce, if_pos h]
    rfl
  | binary o l r => rfl

/-- An expression can be read on top of a stack: a negation may stand there, and a column that is
compared with true is not taken by what waits for an operand. -/
structure Fits (nested condition : Bool) (t : OperatorTree) (stack : List Frame) : Prop where
  negation : t.isNot = true → negation? nested stack = some (expects (.not :: stack))
  comparison : condition = true →
    ∀ x, reduce (TreeOp.compare .equal).level x stack = (x, stack)

theorem fits_paren (nested condition : Bool) (t : OperatorTree) (stack : List Frame) :
    Fits nested condition t (.paren :: stack) :=
  ⟨fun _ => rfl, fun _ _ => rfl⟩

/-- What the reader has waiting behind the left operand and the operator of an expression in
parentheses. -/
structure Waits (nested : Bool) (o : TreeOp) (l : OperatorTree) (stack frames : List Frame) :
    Prop where
  fits : ∀ r : OperatorTree, (nested || o.isConnective || !r.isNot) = true →
    Fits nested o.isConnective r frames
  refuses : (nested || o.isConnective) = false → negation? nested frames = none
  closes : ∀ (r : OperatorTree) condition, reduce 0 (r.asRead o.isConnective) frames =
    ((binary o l r).asRead condition, .paren :: stack)

/-- What waits with its left operand for the right one. -/
theorem negation?_left (nested : Bool) (o : TreeOp) (x : SqlTree) (rest : List Frame) :
    negation? nested (.left (.tree o) x :: rest) =
      if nested || o.isConnective then some (expects (.not :: .left (.tree o) x :: rest))
      else none := by
  have hlevel : decide ((SqlOperator.tree o).level < SqlTree.notLevel) = o.isConnective := by
    rw [Bool.eq_iff_iff, decide_eq_true_iff]
    exact o.level_lt_iff
  rw [negation?, hlevel]
  nofun

theorem fits_left (o : TreeOp) (x : SqlTree) (rest : List Frame) (r : OperatorTree)
    (h : (nested || o.isConnective || !r.isNot) = true) :
    Fits nested o.isConnective r (.left (.tree o) x :: rest) := by
  constructor
  · intro hnot
    rw [hnot, Bool.not_true, Bool.or_false] at h
    rw [negation?_left, if_pos h]
  · intro hc y
    have hlevel : ¬ (TreeOp.compare .equal).level ≤ o.level := by
      have := o.level_lt_iff.2 hc
      rw [SqlTree.notLevel] at this
      rw [TreeOp.level]
      omega
    exact if_neg hlevel

/-- The reader behind the left operand and the operator of an expression in parentheses. -/
theorem step?_operator (nested : Bool) (o : TreeOp) (l : OperatorTree) (stack : List Frame) :
    ∃ frames, Waits nested o l stack frames ∧
      step? nested (l.stateBehind o.isConnective (.paren :: stack)) (.operator (.tree o)) =
        some (expects frames) := by
  -- whatever waits on the left, the operator alone decides what it takes
  have hrefuses : ∀ x rest, (nested || o.isConnective) = false →
      negation? nested (.left (.tree o) x :: rest) = none := fun x rest h => by
    rw [negation?_left, h]
    rfl
  have hcloses : ∀ x y rest, reduce 0 y (.left (.tree o) x :: rest) =
      reduce 0 (.binary (.tree o) x y) rest := fun x y rest => if_pos (Nat.zero_le _)
  by_cases hplain : (l.isNot && !o.isConnective) = true
  · cases l with
    | not x =>
      -- the negation stays on the stack, below the operator
      have htight : ¬ o.level ≤ SqlTree.notLevel := fun h => by
        rw [o.level_le_iff] at h
        rw [h] at hplain
        cases hplain
      refine ⟨.left (.tree o) (x.asRead true) :: .not :: .paren :: stack,
        ⟨fits_left o _ _, hrefuses _ _, fun r condition => ?_⟩, ?_⟩
      · rw [hcloses, asRead, if_pos hplain]
        rfl
      · have hreduce : reduce o.level (x.asRead true) (.not :: .paren :: stack) =
            (x.asRead true, .not :: .paren :: stack) := if_neg htight
        rw [stateBehind, behind, step?]
        dsimp only [SqlOperator.level]
        rw [hreduce]
    | _ => cases hplain
  · -- everything that waits up to the parenthesis belongs to the left operand
    refine ⟨.left (.tree o) (l.asRead o.isConnective) :: .paren :: stack,
      ⟨fits_left o _ _, hrefuses _ _, fun r condition => ?_⟩, ?_⟩
    · rw [hcloses, asRead, if_neg hplain]
      rfl
    · have hreduce : reduce o.level (l.behind o.isConnective (.paren :: stack)).1
          (l.behind o.isConnective (.paren :: stack)).2 =
            (l.asRead o.isConnective, .paren :: stack) := by
        cases hc : o.isConnective with
        | true => exact l.reduce_behind true (.paren :: stack) (o.level_le_iff.2 hc)
        | false =>
          rw [hc, Bool.not_false, Bool.and_true] at hplain
          cases l with
          | not => exact absurd rfl hplain
          | column | binary => rfl
      rw [stateBehind, step?]
      dsimp only [SqlOperator.level]
      rw [hreduce]

theorem run?_cons (st : SqlParser) (t : SqlToken) (ts : List SqlToken) :
    run? nested st (t :: ts) = (step? nested st t).bind fun st => run? nested st ts :=
  List.foldlM_cons

theorem run?_append (st : SqlParser) (ts us : List SqlToken) :
    run? nested st (ts ++ us) = (run? nested st ts).bind fun st => run? nested st us :=
  List.foldlM_append

/-- What the reader does with an expression: it comes behind it, or it refuses it. -/
def Passes (nested : Bool) (condition : Bool) (t : OperatorTree) (stack : List Frame) : Prop :=
  run? nested (expects stack) (t.tokens condition) =
    if t.isReadable nested then some (t.stateBehind condition stack) else none

/-- The closing parenthesis behind an expression completes what waits for it. -/
theorem Passes.close {frames : List Frame} {y : SqlTree} (h : Passes nested condition t frames)
    (hwaits : reduce 0 (t.asRead condition) frames = (y, .paren :: stack)) :
    run? nested (expects frames) (t.tokens condition ++ [.close]) =
      if t.isReadable nested then some (.has y stack) else none := by
  rw [run?_append, h]
  cases t.isReadable nested with
  | false => rfl
  | true =>
    have hreduce := (t.reduce_behind condition frames (Nat.zero_le _)).trans hwaits
    have hclose : step? nested (t.stateBehind condition frames) .close = some (.has y stack) := by
      simp only [stateBehind, step?, hreduce]
    rw [if_pos rfl, if_pos rfl, Option.bind_some, run?_cons]
    exact congrArg (Option.bind · _) hclose

theorem passes_column (p : ColumnPath) (h : Fits nested condition (column p) stack) :
    Passes nested condition (column p) stack := by
  cases condition with
  | false => rfl
  | true =>
    let x := SqlTree.leaf (.column p.identifiers)
    -- the sign is an operator of its own, which binds more tightly than what waits
    have hequals : step? nested (.has x stack) (.operator (.tree (.compare .equal))) =
        some (expects (.left (.tree (.compare .equal)) x :: stack)) := by
      rw [step?]
      dsimp only [SqlOperator.level]
      rw [h.comparison rfl]
    rw [Passes, tokens, if_pos rfl, run?_cons, step?, Option.bind_some, run?_cons, hequals]
    rfl

/-- The reader passes over an expression. -/
theorem passes (t : OperatorTree) (condition : Bool) {stack : List Frame}
    (h : Fits nested condition t stack) : Passes nested condition t stack := by
  -- the stack varies: an operand is read on top of all that waits outside of it
  induction t generalizing condition stack with
  | column p => exact passes_column p h
  | not x ih =>
    -- the parenthesis behind the negation keeps its operand apart
    have hx := (ih true (fits_paren nested true x (.not :: stack))).close rfl
    rw [Passes, tokens, run?_cons, step?, h.negation rfl, Option.bind_some, run?_cons, step?,
      Option.bind_some, hx]
    rfl
  | binary o l r ihl ihr =>
    have hl := ihl o.isConnective (fits_paren nested o.isConnective l stack)
    obtain ⟨frames, hwaits, hoperator⟩ := step?_operator nested o l stack
    rw [Passes, tokens, run?_cons, step?, Option.bind_some, run?_append, hl, isReadable]
    cases hlr : l.isReadable nested with
    | false => simp
    | true =>
      rw [if_pos rfl, Option.bind_some, run?_cons, hoperator, Option.bind_some, Bool.and_true]
      by_cases hright : (nested || o.isConnective || !r.isNot) = true
      · rw [(ihr o.isConnective (hwaits.fits r hright)).close (hwaits.closes r condition), hright,
          Bool.true_and]
        rfl
      · -- a negation is refused behind the operator
        have hrefuses : (nested || o.isConnective) = false ∧ r.isNot = true := by
          simpa [Bool.or_eq_true] using hright
        rw [Bool.eq_false_iff.2 hright, Bool.false_and]
        cases r with
        | not y =>
          rw [tokens, List.cons_append, run?_cons, step?, hwaits.refuses hrefuses.1]
          rfl
        | _ => cases hrefuses.2

/-- **What a text is read as**: if it can be read, it is the expression with the same operators over
the same columns, but for the negations on the left of an operator that binds more tightly. -/
theorem read?_write_eq (nested : Bool) (t : OperatorTree) :
    SqlTree.read? nested (t.write false) =
      if t.isReadable nested then some (t.asRead false) else none := by
  have hfits : Fits nested false t [] := ⟨fun _ => rfl, nofun⟩
  -- at the end nothing waits outside of the expression
  have hfinish : (t.stateBehind false []).finish? = some (t.asRead false) := by
    rw [stateBehind, finish?, t.reduce_behind false [] (Nat.zero_le _)]
    rfl
  have hpasses : Passes nested false t [] := passes t false hfits
  rw [SqlTree.read?, t.tokens_of_write false, Option.bind_eq_bind, Option.bind_some, hpasses]
  cases t.isReadable nested with
  | false => rfl
  | true => exact hfinish

/-! ### Different expressions -/

/-- Whether no negation stands beside an operator that binds more tightly; `nested` allows it on the
right. -/
def isApart (nested : Bool) : OperatorTree → Bool
  | column _ => true
  | not x => x.isApart nested
  | binary o l r =>
    (o.isConnective || !l.isNot && (nested || !r.isNot)) && l.isApart nested && r.isApart nested

/-- Only negations on the left are read in another way. -/
theorem asRead_eq_sql_iff (t : OperatorTree) (condition : Bool) :
    t.asRead condition = t.sql condition ↔ t.isApart true = true := by
  induction t generalizing condition with
  | column p => exact iff_of_true rfl rfl
  | not x ih =>
    rw [asRead, sql, SqlTree.not.injEq, ih true]
    rfl
  | binary o l r ihl ihr =>
    by_cases hplain : (l.isNot && !o.isConnective) = true
    · refine iff_of_false ?_ ?_
      · cases l with
        | not x =>
          rw [asRead, if_pos hplain, sql]
          nofun
        | _ => cases hplain
      · intro h
        simp_all [isApart]
    · rw [asRead, if_neg hplain, sql, SqlTree.binary.injEq, ihl, ihr, isApart]
      have hleft : (o.isConnective || !l.isNot && (true || !r.isNot)) = true := by
        cases hc : o.isConnective <;> cases hn : l.isNot <;> simp_all
      rw [hleft, Bool.true_and, Bool.and_eq_true]
      exact and_iff_right rfl

theorem isApart_iff (nested : Bool) (t : OperatorTree) :
    t.isApart nested = true ↔ t.isReadable nested = true ∧ t.isApart true = true := by
  induction t with
  | column p => exact iff_of_true rfl ⟨rfl, rfl⟩
  | not x ih => exact ih
  | binary o l r ihl ihr =>
    simp only [isApart, isReadable, Bool.and_eq_true, Bool.or_eq_true, ihl, ihr]
    tauto

theorem literal_ne_sql (w : String) (t : OperatorTree) (condition : Bool) :
    SqlTree.leaf (.literal w) ≠ t.sql condition := by
  cases t with
  | column p => cases condition <;> nofun
  | _ => nofun

/-- The comparison of a column with true is no comparison of two columns. -/
theorem column_ne_binary (p : ColumnPath) (l r : OperatorTree) (condition : Bool) :
    (column p).sql condition ≠ (binary o l r).sql condition := by
  cases condition with
  | false => nofun
  | true =>
    intro h
    exact literal_ne_sql "true" r _ (SqlTree.binary.inj h).2.2

/-- Expressions with the same operators over the same columns are the same. -/
theorem sql_inj {t u : OperatorTree} {condition : Bool} (h : t.sql condition = u.sql condition) :
    t = u := by
  induction t generalizing u condition with
  | column p =>
    cases u with
    | column q =>
      have hpath : p.identifiers = q.identifiers := by
        cases condition <;> simpa [sql] using h
      rw [ColumnPath.identifiers_inj hpath]
    | not y => cases condition <;> cases h
    | binary o l r => exact absurd h (column_ne_binary p l r condition)
  | not x ih =>
    cases u with
    | column q => cases condition <;> cases h
    | not y => rw [ih (SqlTree.not.inj h)]
    | binary => cases h
  | binary o l r ihl ihr =>
    cases u with
    | column q => exact absurd h.symm (column_ne_binary q l r condition)
    | not y => cases h
    | binary o' l' r' =>
      obtain ⟨ho, hl, hr⟩ := SqlTree.binary.inj h
      obtain rfl := SqlOperator.tree.inj ho
      rw [ihl hl, ihr hr]

/-- A text is read as the expression that it was written for if and only if no negation stands
beside an operator that binds more tightly. -/
theorem read?_write_iff (nested : Bool) (t : OperatorTree) :
    SqlTree.read? nested (t.write false) = some (t.sql false) ↔ t.isApart nested = true := by
  rw [read?_write_eq, isApart_iff, ← asRead_eq_sql_iff t false]
  cases t.isReadable nested <;> simp

end OperatorTree

end QueryClause
