import QueryClause.Proofs.Compile.Predicate

/-!
# The shapes of operands

An operand of a connective or of a negation has to be a condition of its own
(`Context.IsPredicateText`): a comparison or a connective in parentheses, a column that is compared
with true, one of the two conditions that always or never hold, or a negation.  What may not stand
there alone is a column or a truth value (`Context.IsBareText`): some dialects have no conditions
that are values.

A text is told apart by its ends, so that it cannot be both (`Context.IsPredicateText.not_bare`).
-/

namespace QueryClause

/-! ### Identifiers -/

namespace Dialect

variable {d : Dialect}

/-- An identifier is quoted, or in two dialects all of it may stand bare. -/
theorem quoted_or_bare (d : Dialect) (name : String) :
    d.quoteIdentifier name = Identifier.quoteWith d.nameOpening (d.closing .name) name ∨
      (d = generic ∨ d = oracle) ∧ (d.quoteIdentifier name).toList ≠ [] ∧
        ∀ ch ∈ (d.quoteIdentifier name).toList, Identifier.isBareChar ch = true := by
  have hneeded : Identifier.quoteIfNeeded name = Identifier.quoteWith '"' '"' name ∨
      (Identifier.quoteIfNeeded name).toList ≠ [] ∧
        ∀ ch ∈ (Identifier.quoteIfNeeded name).toList, Identifier.isBareChar ch = true := by
    rcases isBareName_or_quoted name with ⟨heq, hbare⟩ | heq <;> rw [heq]
    · exact .inr ⟨hbare.nonempty, hbare.bare⟩
    · exact .inl rfl
  cases d with
  | generic =>
    rcases hneeded with h | ⟨hne, hbare⟩
    · exact .inl h
    · exact .inr ⟨.inl rfl, hne, hbare⟩
  | oracle =>
    rcases hneeded with h | ⟨hne, hbare⟩
    · exact .inl h
    · exact .inr ⟨.inr rfl, hne, hbare⟩
  | _ => exact .inl rfl

/-- An identifier, also with a dot behind it, begins with no parenthesis and no negation. -/
theorem quoteIdentifier_begins (d : Dialect) (name : String) (rest : List Char)
    (hrest : ∀ ch, rest.head? = some ch → ch = '.') (r : List Char) :
    (d.quoteIdentifier name).toList ++ rest ≠ '(' :: r ∧
      (d.quoteIdentifier name).toList ++ rest ≠ 'N' :: 'O' :: 'T' :: ' ' :: r := by
  rcases d.quoted_or_bare name with h | ⟨-, -, hbare⟩
  · rw [h, Identifier.quoteWith, String.toList_ofList]
    cases d <;> simp [nameOpening]
  · have hcut : ((d.quoteIdentifier name).toList ++ rest).dropWhile Identifier.isBareChar =
        rest := by
      rw [List.dropWhile_append_of_pos hbare]
      cases rest with
      | nil => rfl
      | cons ch rest =>
        rw [hrest ch rfl, List.dropWhile_cons_of_neg (by decide)]
    constructor
    · intro heq
      rw [heq, List.dropWhile_cons_of_neg (by decide)] at hcut
      rw [← hcut] at hrest
      exact absurd (hrest '(' rfl) (by decide)
    · intro heq
      rw [heq, List.dropWhile_cons_of_pos (by decide),
        List.dropWhile_cons_of_pos (by decide),
        List.dropWhile_cons_of_pos (by decide),
        List.dropWhile_cons_of_neg (by decide)] at hcut
      rw [← hcut] at hrest
      exact absurd (hrest ' ' rfl) (by decide)

/-- The last character of an identifier closes a quotation, or in two dialects may stand bare. -/
theorem quoteIdentifier_ends (d : Dialect) (name : String) :
    ∃ ch, (d.quoteIdentifier name).toList.getLast? = some ch ∧
      (ch = d.closing .name ∨ (d = generic ∨ d = oracle) ∧ Identifier.isBareChar ch = true) := by
  rcases d.quoted_or_bare name with h | ⟨hd, hne, hbare⟩
  · refine ⟨d.closing .name, ?_, .inl rfl⟩
    rw [h, Identifier.quoteWith, String.toList_ofList, List.getLast?_concat]
  · obtain ⟨ch, hch⟩ := List.getLast?_isSome.2 hne |> Option.isSome_iff_exists.1
    exact ⟨ch, hch, .inr ⟨hd, hbare ch (List.mem_of_getLast? hch)⟩⟩

end Dialect

namespace Context

variable {c : Context} {s : String}

/-- The text of a column. -/
def IsColumnText (c : Context) (s : String) : Prop :=
  ∃ e f, e.isColumn = true ∧ c.column e = .ok f ∧ f.render c.target = s

/-- A text that is a value and no condition: a column or a truth value. -/
inductive IsBareText (c : Context) : String → Prop where
  | column {s : String} (h : c.IsColumnText s) : IsBareText c s
  | literal (b : Bool) : IsBareText c (c.target.literal (.bool b) .bool)

/-- A text that is a condition. -/
inductive IsPredicateText (c : Context) : String → Prop where
  | comparison (o : Comparison) {l r : String} (h : c.IsColumnText l ∨ c.IsColumnText r) :
    IsPredicateText c (operatorText o.op l r)
  | isTrue {s : String} (h : c.IsColumnText s) :
    IsPredicateText c (s ++ "=" ++ c.target.trueLiteral)
  | always : IsPredicateText c c.target.trueCondition
  | never : IsPredicateText c c.target.falseCondition
  | connective {op : BinaryOp} (hop : op.isLogical = true) (l r : String) :
    IsPredicateText c (operatorText op l r)
  | negation (s : String) : IsPredicateText c ("NOT (" ++ s ++ ")")

/-! ### Columns -/

/-- The text of a column is an identifier, possibly behind another one. -/
theorem IsColumnText.identifiers (h : c.IsColumnText s) :
    ∃ name, s = c.target.dialect.quoteIdentifier name ∨
      ∃ table, s = c.target.dialect.qualifiedColumn table name := by
  obtain ⟨e, f, he, hf, rfl⟩ := h
  cases e with
  | member target name declaring type =>
    rw [column] at hf
    split at hf
    · rw [← Except.ok.inj hf, render_columnFragment, columnText]
      split
      · exact ⟨_, .inr ⟨_, rfl⟩⟩
      · exact ⟨_, .inl rfl⟩
    · cases hf
  | _ => cases he

/-- A column begins with no parenthesis and no negation. -/
theorem IsColumnText.begins (h : c.IsColumnText s) (r : List Char) :
    s.toList ≠ '(' :: r ∧ s.toList ≠ 'N' :: 'O' :: 'T' :: ' ' :: r := by
  obtain ⟨name, rfl | ⟨table, rfl⟩⟩ := h.identifiers
  · have hbegins := c.target.dialect.quoteIdentifier_begins name [] nofun r
    rwa [List.append_nil] at hbegins
  · have hdot : ∀ ch, ('.' :: (c.target.dialect.quoteIdentifier name).toList).head? = some ch →
        ch = '.' := fun ch hch => (Option.some.inj hch).symm
    have hbegins := c.target.dialect.quoteIdentifier_begins table _ hdot r
    simpa [Dialect.qualifiedColumn] using hbegins

/-- The last character of a column is that of an identifier. -/
theorem IsColumnText.ends (h : c.IsColumnText s) :
    ∃ ch, s.toList.getLast? = some ch ∧ (ch = c.target.dialect.closing .name ∨
      (c.target.dialect = .generic ∨ c.target.dialect = .oracle) ∧
        Identifier.isBareChar ch = true) := by
  obtain ⟨name, rfl | ⟨table, rfl⟩⟩ := h.identifiers
  · exact c.target.dialect.quoteIdentifier_ends name
  · obtain ⟨ch, hlast, hch⟩ := c.target.dialect.quoteIdentifier_ends name
    refine ⟨ch, ?_, hch⟩
    rw [Dialect.qualifiedColumn, String.toList_append, List.getLast?_append, hlast]
    rfl

theorem IsColumnText.isReference (hd : c.target.dialect = .generic) (h : c.IsColumnText s) :
    IsReference s := by
  obtain ⟨e, f, he, hf, rfl⟩ := h
  exact isReference_column hd he hf

/-- The last character of the true literal stands at the end of no quoted identifier. -/
theorem trueLiteral_ends (t : Target) :
    ∃ ch, t.trueLiteral.toList.getLast? = some ch ∧ ch ≠ t.dialect.closing .name ∧
      (t.dialect = .oracle → Identifier.isBareChar ch = false) := by
  obtain ⟨d, compact⟩ := t
  cases d with
  | generic | postgres => cases compact <;> exact ⟨'e', by decide, by decide, nofun⟩
  | oracle => cases compact <;> exact ⟨'\'', by decide, by decide, fun _ => by decide⟩
  | mysql | sqlite | sqlServer => cases compact <;> exact ⟨'1', by decide, by decide, nofun⟩

/-- A column that is compared with true is no column. -/
theorem IsColumnText.ne_isTrue {s t : String} (hs : c.IsColumnText s) (ht : c.IsColumnText t) :
    s ≠ t ++ "=" ++ c.target.trueLiteral := by
  rintro rfl
  by_cases hd : c.target.dialect = .generic
  · -- a bare name might end in the word for true, but has no equality sign
    have hproper : (SqlCondition.column (t ++ "=" ++ c.target.trueLiteral)).Proper :=
      hs.isReference hd
    have htext : (SqlCondition.column (t ++ "=" ++ c.target.trueLiteral)).text =
        (SqlCondition.isTrue t).text := by
      rw [SqlCondition.text, Target.trueLiteral, literal_bool hd, String.append_assoc]
      rfl
    cases SqlCondition.text_inj (q := .isTrue t) hproper (ht.isReference hd) htext
  · obtain ⟨ch, hlast, hch⟩ := hs.ends
    obtain ⟨ch', hlast', hclosing, hbare⟩ := trueLiteral_ends c.target
    rw [String.toList_append, List.getLast?_append, hlast'] at hlast
    obtain rfl : ch' = ch := Option.some.inj hlast
    rcases hch with rfl | ⟨hor, hch⟩
    · exact hclosing rfl
    · rw [hbare (hor.resolve_left hd)] at hch
      cases hch

/-! ### Conditions -/

theorem head_comparison (o : Comparison) (l r : String) :
    (operatorText o.op l r).toList.head? = some '(' := by
  cases o <;> simp [Comparison.op, operatorText]

theorem head_connective {op : BinaryOp} (hop : op.isLogical = true) (l r : String) :
    (operatorText op l r).toList.head? = some '(' := by
  rcases Expr.eq_of_isLogical hop with rfl | rfl <;> simp [operatorText]

/-- How a condition begins, if it is not the comparison of a column with true. -/
theorem IsPredicateText.begins (h : c.IsPredicateText s) :
    s.toList.head? = some '(' ∨ (∃ r, s.toList = 'N' :: 'O' :: 'T' :: ' ' :: r) ∨
      ∃ t, c.IsColumnText t ∧ s = t ++ "=" ++ c.target.trueLiteral := by
  cases h with
  | comparison o h => exact .inl (head_comparison o _ _)
  | isTrue h => exact .inr (.inr ⟨_, h, rfl⟩)
  | always => exact .inl (by simp [Target.trueCondition])
  | never => exact .inl (by simp [Target.falseCondition])
  | connective hop l r => exact .inl (head_connective hop l r)
  | negation s => exact .inr (.inl ⟨'(' :: (s.toList ++ [')']), by simp⟩)

/-- The literal of a truth value begins otherwise, and has no equality sign. -/
theorem literal_marks (t : Target) (b : Bool) :
    (t.literal (.bool b) .bool).toList.head? ≠ some '(' ∧
      (t.literal (.bool b) .bool).toList.head? ≠ some 'N' ∧
      '=' ∉ (t.literal (.bool b) .bool).toList := by
  obtain ⟨d, compact⟩ := t
  cases d <;> cases compact <;> cases b <;> decide

/-- **No text is both**: a condition is neither a column nor a truth value. -/
theorem IsPredicateText.not_bare (h : c.IsPredicateText s) : ¬ c.IsBareText s := by
  intro hbare
  rcases hbare with hs | b
  · rcases h.begins with hopen | ⟨r, hnot⟩ | ⟨t, ht, htext⟩
    · obtain ⟨r, hr⟩ := List.head?_eq_some_iff.1 hopen
      exact (hs.begins r).1 hr
    · exact (hs.begins r).2 hnot
    · exact hs.ne_isTrue ht htext
  · obtain ⟨hopen, hnot, hequal⟩ := literal_marks c.target b
    rcases h.begins with hopen' | ⟨r, hr⟩ | ⟨t, -, htext⟩
    · exact hopen hopen'
    · exact hnot (by rw [hr]; rfl)
    · exact hequal (by rw [htext]; simp)

end Context

end QueryClause
