import QueryClause.Host.Value
import QueryClause.Expr.Operator
import QueryClause.Proofs.Sql.Layout
import QueryClause.Proofs.Text.Integer

/-!
# Conditions in SQL

`SqlCondition` is the syntax of the conditions that the generic dialect gets: comparisons of columns
and numbers, truth values of columns, and the connectives.  `SqlCondition.text` writes a condition
and `SqlCondition.holds?` says whether it holds on a row.

A text can be read as a condition in one way at most (`SqlCondition.text_inj`), as long as its
columns are references (`IsReference`), which are words that cannot be mistaken for a number, a
truth value or a negation.
-/

namespace QueryClause

/-- A comparison operator. -/
inductive Comparison where
  | equal
  | notEqual
  | lessThan
  | lessThanOrEqual
  | greaterThan
  | greaterThanOrEqual
  deriving DecidableEq, Repr

namespace Comparison

/-- The operator of host expressions. -/
def op : Comparison → BinaryOp
  | equal => .equal
  | notEqual => .notEqual
  | lessThan => .lessThan
  | lessThanOrEqual => .lessThanOrEqual
  | greaterThan => .greaterThan
  | greaterThanOrEqual => .greaterThanOrEqual

/-- Whether two numbers compare. -/
def compares (o : Comparison) (a b : Int) : Bool :=
  match o with
  | equal => a = b
  | notEqual => a ≠ b
  | lessThan => a < b
  | lessThanOrEqual => a ≤ b
  | greaterThan => b < a
  | greaterThanOrEqual => b ≤ a

end Comparison

/-- The values of the columns, by the texts that refer to them. -/
abbrev SqlRow := String → Value

/-- An operand of a comparison. -/
inductive SqlOperand where
  | column (reference : String)
  | number (n : Int64)
  deriving DecidableEq, Repr

/-- A condition. -/
inductive SqlCondition where
  | compare (o : Comparison) (left right : SqlOperand)
  /-- The truth value of a column. -/
  | column (reference : String)
  /-- The comparison of a column with true. -/
  | isTrue (reference : String)
  | not (p : SqlCondition)
  | and (p q : SqlCondition)
  | or (p q : SqlCondition)
  /-- A comparison of two truth values that always or never holds. -/
  | canned (b : Bool)
  | literal (b : Bool)
  deriving DecidableEq, Repr

namespace SqlOperand

/-- The text of an operand. -/
def text : SqlOperand → String
  | column reference => reference
  | number n => Text.ofInt n.toInt

/-- The number that an operand stands for on a row. -/
def number? (row : SqlRow) : SqlOperand → Option Int
  | column reference =>
    match row reference with
    | .int n => some n.toInt
    | _ => none
  | number n => some n.toInt

end SqlOperand

namespace SqlCondition

/-- The word for a truth value. -/
def boolText (b : Bool) : String := if b then "true" else "false"

/-- The text of a condition. -/
def text : SqlCondition → String
  | compare o left right => "(" ++ left.text ++ " " ++ o.op.sqlToken ++ " " ++ right.text ++ ")"
  | column reference => reference
  | isTrue reference => reference ++ "=true"
  | not p => "NOT (" ++ p.text ++ ")"
  | and p q => "(" ++ p.text ++ " AND " ++ q.text ++ ")"
  | or p q => "(" ++ p.text ++ " OR " ++ q.text ++ ")"
  | canned b => "(true=" ++ boolText b ++ ")"
  | literal b => boolText b

/-- Whether a condition holds on a row; `none` if a column is not of the type that is asked for. -/
def holds? (row : SqlRow) : SqlCondition → Option Bool
  | compare o left right => do return o.compares (← left.number? row) (← right.number? row)
  | column reference | isTrue reference => (row reference).asBool?
  | not p => p.holds? row |>.map (!·)
  | and p q => do return (← p.holds? row) && (← q.holds? row)
  | or p q => do return (← p.holds? row) || (← q.holds? row)
  | canned b | literal b => some b

end SqlCondition

/-! ### Reading -/

/-- A text that can be read as the name of a column: a word that is neither a number nor a word of
its own meaning. -/
structure IsReference (s : String) : Prop where
  word : IsWord s.toList
  notKeyword : s ≠ "true" ∧ s ≠ "false" ∧ s ≠ "NOT"
  notNumber : ∀ c, s.toList.head? = some c → c.isDigit = false ∧ c ≠ '-'

/-- The columns of an operand are references. -/
def SqlOperand.Proper : SqlOperand → Prop
  | column reference => IsReference reference
  | number _ => True

namespace SqlCondition

/-- The columns of a condition are references. -/
def Proper : SqlCondition → Prop
  | compare _ left right => left.Proper ∧ right.Proper
  | column reference | isTrue reference => IsReference reference
  | not p => p.Proper
  | and p q | or p q => p.Proper ∧ q.Proper
  | canned _ | literal _ => True

/-- The layout of a condition. -/
def layout : SqlCondition → Layout
  | compare o left right =>
    .group (.word left.text.toList) o.op.sqlToken.toList (.word right.text.toList)
  | column reference => .word reference.toList
  | isTrue reference => .assign reference.toList "true".toList
  | not p => .not p.layout
  | and p q => .group p.layout "AND".toList q.layout
  | or p q => .group p.layout "OR".toList q.layout
  | canned b => .paren (.assign "true".toList (boolText b).toList)
  | literal b => .word (boolText b).toList

theorem chars_layout (p : SqlCondition) : p.layout.chars = p.text.toList := by
  induction p with
  | compare o left right => simp [layout, Layout.chars, text]
  | column reference => rfl
  | isTrue reference => simp [layout, Layout.chars, text]
  | not p ih => simp [layout, Layout.chars, text, ih, Layout.notWord]
  | and p q ihp ihq => simp [layout, Layout.chars, text, ihp, ihq]
  | or p q ihp ihq => simp [layout, Layout.chars, text, ihp, ihq]
  | canned b => simp [layout, Layout.chars, text]
  | literal b => rfl

end SqlCondition

/-! ### Words -/

/-- Some characters without delimiters and quotes are a word. -/
theorem isWord_of_unquoted {w : List Char} (hne : w ≠ [])
    (h : ∀ c ∈ w, isDelimiter c = false ∧ c ≠ '"') : IsWord w := by
  refine ⟨hne, ?_⟩
  clear hne
  induction w with
  | nil => rfl
  | cons c rest ih =>
    obtain ⟨hd, hq⟩ := h c List.mem_cons_self
    rw [quoteAfter, hd, if_neg hq]
    exact ih fun x hx => h x (List.mem_cons_of_mem _ hx)

theorem isDelimiter_of_isDigit {c : Char} (h : c.isDigit = true) :
    isDelimiter c = false ∧ c ≠ '"' := by
  have hmem : c ∉ [' ', '(', ')', '=', '"'] := by
    intro hmem
    simp only [List.mem_cons, List.not_mem_nil, or_false] at hmem
    rcases hmem with rfl | rfl | rfl | rfl | rfl <;> cases h
  simp only [List.mem_cons, List.not_mem_nil, or_false, not_or] at hmem
  obtain ⟨h1, h2, h3, h4, h5⟩ := hmem
  refine ⟨?_, h5⟩
  simp [isDelimiter, h1, h2, h3, h4]

theorem isWord_ofInt (n : Int) : IsWord (Text.ofInt n).toList := by
  refine isWord_of_unquoted (Text.ofInt_ne_nil n) fun c hc => ?_
  rcases Text.isDigit_or_of_mem_ofInt hc with h | rfl
  · exact isDelimiter_of_isDigit h
  · exact ⟨rfl, by decide⟩

namespace SqlOperand

theorem isWord_text {x : SqlOperand} (hx : x.Proper) : IsWord x.text.toList := by
  cases x with
  | column reference => exact hx.word
  | number n => exact isWord_ofInt _

/-- A number is not the text of a reference. -/
theorem ofInt_ne_reference {s : String} (hs : IsReference s) (n : Int) : Text.ofInt n ≠ s := by
  rintro rfl
  cases hcs : (Text.ofInt n).toList with
  | nil => exact Text.ofInt_ne_nil n hcs
  | cons c rest =>
    obtain ⟨hdigit, hhyphen⟩ := hs.notNumber c (by rw [hcs]; rfl)
    rcases Text.isDigit_or_of_mem_ofInt (c := c) (by rw [hcs]; exact List.mem_cons_self) with h | h
    · rw [hdigit] at h
      cases h
    · exact hhyphen h

theorem text_ne_notWord {x : SqlOperand} (hx : x.Proper) : x.text.toList ≠ Layout.notWord := by
  cases x with
  | column reference =>
    intro h
    exact hx.notKeyword.2.2 (String.toList_inj.1 h)
  | number n =>
    intro h
    have hmem : 'N' ∈ (Text.ofInt n.toInt).toList := by
      change 'N' ∈ (number n).text.toList
      rw [h]
      exact List.mem_cons_self
    rcases Text.isDigit_or_of_mem_ofInt hmem with h | h <;> cases h

theorem operand_text_inj {x y : SqlOperand} (hx : x.Proper) (hy : y.Proper)
    (h : x.text.toList = y.text.toList) : x = y := by
  have htext : x.text = y.text := String.toList_inj.1 h
  cases x with
  | column reference =>
    cases y with
    | column reference' => cases htext; rfl
    | number n => exact absurd htext.symm (ofInt_ne_reference hx _)
  | number m =>
    cases y with
    | column reference => exact absurd htext (ofInt_ne_reference hy _)
    | number n => rw [Int64.toInt_inj.1 (Text.ofInt_inj htext)]

end SqlOperand

namespace Comparison

theorem token_inj {o o' : Comparison} (h : o.op.sqlToken.toList = o'.op.sqlToken.toList) :
    o = o' := by
  cases o <;> cases o' <;> first | rfl | cases h

theorem blank_not_mem_token (o : Comparison) : ' ' ∉ o.op.sqlToken.toList := by
  cases o <;> decide

theorem token_ne_connective (o : Comparison) :
    o.op.sqlToken.toList ≠ "AND".toList ∧ o.op.sqlToken.toList ≠ "OR".toList := by
  cases o <;> decide

end Comparison

namespace SqlCondition

theorem isWord_boolText (b : Bool) :
    IsWord (boolText b).toList ∧ (boolText b).toList ≠ Layout.notWord := by
  cases b <;> exact ⟨⟨by decide, by decide⟩, by decide⟩

theorem boolText_inj {a b : Bool} (h : (boolText a).toList = (boolText b).toList) : a = b := by
  cases a <;> cases b <;> first | rfl | cases h

theorem boolText_ne_reference {s : String} (hs : IsReference s) (b : Bool) :
    (boolText b).toList ≠ s.toList := by
  intro h
  have htext := String.toList_inj.1 h
  cases b with
  | false => exact hs.notKeyword.2.1 htext.symm
  | true => exact hs.notKeyword.1 htext.symm

theorem IsReference.proper_word {s : String} (hs : IsReference s) :
    IsWord s.toList ∧ s.toList ≠ Layout.notWord :=
  ⟨hs.word, fun h => hs.notKeyword.2.2 (String.toList_inj.1 h)⟩

theorem proper_layout {p : SqlCondition} (hp : p.Proper) : p.layout.Proper := by
  induction p with
  | compare o left right =>
    exact ⟨⟨left.isWord_text hp.1, left.text_ne_notWord hp.1⟩, o.blank_not_mem_token,
      right.isWord_text hp.2, right.text_ne_notWord hp.2⟩
  | column reference => exact IsReference.proper_word hp
  | isTrue reference => exact ⟨hp.word, (isWord_boolText true).1⟩
  | not p ih => exact ih hp
  | and p q ihp ihq => exact ⟨ihp hp.1, by decide, ihq hp.2⟩
  | or p q ihp ihq => exact ⟨ihp hp.1, by decide, ihq hp.2⟩
  | canned b => exact ⟨(isWord_boolText true).1, (isWord_boolText b).1⟩
  | literal b => exact isWord_boolText b

/-- A layout belongs to one condition at most. -/
theorem layout_inj {p q : SqlCondition} (hp : p.Proper) (hq : q.Proper)
    (h : p.layout = q.layout) : p = q := by
  -- the operator of a group tells comparisons and the two connectives apart
  induction p generalizing q with
  | compare o left right =>
    cases q with
    | compare o' left' right' =>
      obtain ⟨hl, ho, hr⟩ := Layout.group.inj h
      rw [SqlOperand.operand_text_inj hp.1 hq.1 (Layout.word.inj hl), Comparison.token_inj ho,
        SqlOperand.operand_text_inj hp.2 hq.2 (Layout.word.inj hr)]
    | and => exact absurd (Layout.group.inj h).2.1 o.token_ne_connective.1
    | or => exact absurd (Layout.group.inj h).2.1 o.token_ne_connective.2
    | _ => cases h
  | column reference =>
    cases q with
    | column reference' => rw [String.toList_inj.1 (Layout.word.inj h)]
    | literal b => exact absurd (Layout.word.inj h).symm (boolText_ne_reference hp b)
    | _ => cases h
  | isTrue reference =>
    cases q with
    | isTrue reference' => rw [String.toList_inj.1 (Layout.assign.inj h).1]
    | _ => cases h
  | not p ih =>
    cases q with
    | not q => rw [ih (q := q) hp hq (Layout.not.inj h)]
    | _ => cases h
  | and p p' ih ih' =>
    cases q with
    | compare o => exact absurd (Layout.group.inj h).2.1.symm o.token_ne_connective.1
    | and q q' =>
      obtain ⟨hl, -, hr⟩ := Layout.group.inj h
      rw [ih hp.1 hq.1 hl, ih' hp.2 hq.2 hr]
    | or => exact absurd (Layout.group.inj h).2.1 (by decide)
    | _ => cases h
  | or p p' ih ih' =>
    cases q with
    | compare o => exact absurd (Layout.group.inj h).2.1.symm o.token_ne_connective.2
    | and => exact absurd (Layout.group.inj h).2.1 (by decide)
    | or q q' =>
      obtain ⟨hl, -, hr⟩ := Layout.group.inj h
      rw [ih hp.1 hq.1 hl, ih' hp.2 hq.2 hr]
    | _ => cases h
  | canned b =>
    cases q with
    | canned b' => rw [boolText_inj (Layout.assign.inj (Layout.paren.inj h)).2]
    | _ => cases h
  | literal b =>
    cases q with
    | column reference => exact absurd (Layout.word.inj h) (boolText_ne_reference hq b)
    | literal b' => rw [boolText_inj (Layout.word.inj h)]
    | _ => cases h

/-- **Unique reading**: a text is written by one condition at most. -/
theorem text_inj {p q : SqlCondition} (hp : p.Proper) (hq : q.Proper) (h : p.text = q.text) :
    p = q := by
  refine layout_inj hp hq (Layout.chars_inj (proper_layout hp) (proper_layout hq) ?_)
  rw [chars_layout, chars_layout, h]

end SqlCondition

end QueryClause
