import QueryClause.Proofs.Sql.Condition

/-!
# Membership in SQL

`SqlMembership` is the syntax of the conditions that compare a column with a list, which has one
item at least.  The condition is the disjunction of the comparisons with the items, in the logic of
three values: a comparison with null is unknown (`SqlMembership.holds?`), and so is the negation of
what is unknown (`SqlMembership.negatedHolds?`).

For one column, a text is written by one list at most (`SqlMembership.membership_text_inj`).
-/

namespace QueryClause

/-! ### Lists of texts -/

/-- Texts without commas can be told apart in a list. -/
theorem Text.join_comma_inj {s t : List String} (hs : ∀ x ∈ s, ',' ∉ x.toList)
    (ht : ∀ x ∈ t, ',' ∉ x.toList) (hne : s ≠ []) (hne' : t ≠ [])
    (h : (Text.join "," s).toList = (Text.join "," t).toList) : s = t := by
  induction s generalizing t with
  | nil => exact absurd rfl hne
  | cons x rest ih =>
    cases t with
    | nil => exact absurd rfl hne'
    | cons y rest' =>
      have hx := hs x List.mem_cons_self
      have hy := ht y List.mem_cons_self
      cases rest with
      | nil =>
        cases rest' with
        | nil =>
          have hxy : x = y := String.toList_inj.1 h
          rw [hxy]
        | cons y' rest' =>
          rw [Text.join, Text.join, String.toList_append, String.toList_append] at h
          rw [h] at hx
          exact absurd (by simp) hx
      | cons x' rest =>
        cases rest' with
        | nil =>
          rw [Text.join, Text.join, String.toList_append, String.toList_append] at h
          rw [← h] at hy
          exact absurd (by simp) hy
        | cons y' rest' =>
          simp only [Text.join, String.toList_append, List.append_assoc] at h
          obtain ⟨hfirst, hrest⟩ := Layout.separator_append_inj hx hy h
          rw [String.toList_inj.1 hfirst, ih (fun z hz => hs z (List.mem_cons_of_mem _ hz))
            (fun z hz => ht z (List.mem_cons_of_mem _ hz)) (by simp) (by simp) hrest]

/-! ### Items -/

/-- An item of a list. -/
inductive SqlItem where
  | null
  | number (n : Int64)
  deriving DecidableEq, Repr

namespace SqlItem

/-- The text of an item. -/
def text : SqlItem → String
  | null => "NULL"
  | number n => Text.ofInt n.toInt

/-- Whether a number is equal to an item; unknown if one of them is null. -/
def equals? (v : Option Int) : SqlItem → Option Bool
  | null => none
  | number n => v.map (n.toInt == ·)

theorem comma_not_mem_text (x : SqlItem) : ',' ∉ x.text.toList := by
  cases x with
  | null => decide
  | number n =>
    intro h
    rcases Text.isDigit_or_of_mem_ofInt h with h | h <;> cases h

theorem item_text_inj {x y : SqlItem} (h : x.text = y.text) : x = y := by
  have hnull : ∀ n : Int64, "NULL" ≠ Text.ofInt n.toInt := by
    intro n hn
    have hmem : 'N' ∈ (Text.ofInt n.toInt).toList := by rw [← hn]; decide
    rcases Text.isDigit_or_of_mem_ofInt hmem with h | h <;> cases h
  cases x with
  | null =>
    cases y with
    | null => rfl
    | number n => exact absurd h (hnull n)
  | number m =>
    cases y with
    | null => exact absurd h.symm (hnull m)
    | number n => rw [Int64.toInt_inj.1 (Text.ofInt_inj h)]

end SqlItem

/-! ### Truth in three values -/

/-- The disjunction of two conditions that may be unknown. -/
def disjunction? : Option Bool → Option Bool → Option Bool
  | some true, _ => some true
  | _, some true => some true
  | some false, some false => some false
  | _, _ => none

/-- Whether a number is equal to one of some items. -/
def equalsAny? (v : Option Int) : List SqlItem → Option Bool
  | [] => some false
  | x :: rest => disjunction? (x.equals? v) (equalsAny? v rest)

/-- Between numbers, membership is never unknown. -/
theorem equalsAny?_numbers (a : Int) (ns : List Int64) :
    equalsAny? (some a) (ns.map .number) = some (ns.any fun n => n.toInt == a) := by
  induction ns with
  | nil => rfl
  | cons n rest ih =>
    rw [List.map_cons, equalsAny?, ih, List.any_cons, SqlItem.equals?, Option.map_some]
    cases n.toInt == a <;> cases rest.any fun n => n.toInt == a <;> rfl

/-- A comparison of a column with a list. -/
structure SqlMembership where
  reference : String
  first : SqlItem
  rest : List SqlItem
  deriving DecidableEq, Repr

namespace SqlMembership

/-- The items of the list. -/
def items (p : SqlMembership) : List SqlItem := p.first :: p.rest

/-- The comparison with some numbers, or with null alone if there are none. -/
def ofNumbers (reference : String) : List Int64 → SqlMembership
  | [] => ⟨reference, .null, []⟩
  | n :: rest => ⟨reference, .number n, rest.map .number⟩

/-- The text of the condition. -/
def text (p : SqlMembership) : String :=
  p.reference ++ " In (" ++ Text.join "," (p.items.map SqlItem.text) ++ ")"

/-- The text of the opposite condition. -/
def negatedText (p : SqlMembership) : String := "NOT (" ++ p.text ++ ")"

/-- Whether the condition holds on a row, or is unknown. -/
def holds? (row : SqlRow) (p : SqlMembership) : Option Bool :=
  equalsAny? ((SqlOperand.column p.reference).number? row) p.items

/-- Whether the opposite condition holds on a row, or is unknown. -/
def negatedHolds? (row : SqlRow) (p : SqlMembership) : Option Bool := (p.holds? row).map (!·)

theorem reference_ofNumbers (reference : String) (ns : List Int64) :
    (ofNumbers reference ns).reference = reference := by
  cases ns <;> rfl

/-- A number is among some numbers, but for a list without any. -/
theorem holds?_ofNumbers {row : SqlRow} {reference : String} {a : Int64} {ns : List Int64}
    (hrow : row reference = .int a) (hne : ns ≠ []) :
    (ofNumbers reference ns).holds? row = some (ns.any fun n => n.toInt == a.toInt) := by
  cases ns with
  | nil => exact absurd rfl hne
  | cons n rest =>
    have hnumber : (SqlOperand.column reference).number? row = some a.toInt := by
      rw [SqlOperand.number?, hrow]
    change equalsAny? ((SqlOperand.column reference).number? row) ((n :: rest).map .number) = _
    rw [hnumber, equalsAny?_numbers]

/-- Nothing is known about a list without numbers. -/
theorem holds?_ofNumbers_nil (row : SqlRow) (reference : String) :
    (ofNumbers reference []).holds? row = none := rfl

/-- A number is known to be among some numbers if and only if it is one of them. -/
theorem holds?_ofNumbers_iff {row : SqlRow} {reference : String} {a : Int64} (ns : List Int64)
    (hrow : row reference = .int a) :
    (ofNumbers reference ns).holds? row = some true ↔
      (ns.any fun n => n.toInt == a.toInt) = true := by
  cases ns with
  | nil => simp [holds?_ofNumbers_nil]
  | cons n rest => rw [holds?_ofNumbers hrow (List.cons_ne_nil n rest), Option.some_inj]

/-- The opposite is known if and only if the number is none of them, but for a list without any. -/
theorem negatedHolds?_ofNumbers_iff {row : SqlRow} {reference : String} {a : Int64}
    {ns : List Int64} (hrow : row reference = .int a) (hne : ns ≠ []) :
    (ofNumbers reference ns).negatedHolds? row = some true ↔
      (!ns.any fun n => n.toInt == a.toInt) = true := by
  rw [negatedHolds?, holds?_ofNumbers hrow hne, Option.map_some, Option.some_inj]

/-- **Unique reading**: for one column, a text is written by one list at most. -/
theorem membership_text_inj {p q : SqlMembership} (hreference : p.reference = q.reference)
    (h : p.text = q.text) : p = q := by
  obtain ⟨reference, first, rest⟩ := p
  obtain ⟨reference', first', rest'⟩ := q
  cases hreference
  -- without the column and the parentheses, the lists are the same
  have hlist : (Text.join "," ((first :: rest).map SqlItem.text)).toList =
      (Text.join "," ((first' :: rest').map SqlItem.text)).toList := by
    have hchars := congrArg String.toList h
    simpa [text, items] using hchars
  -- no item has a comma, so the commas part the items
  have hcomma : ∀ xs : List SqlItem, ∀ s ∈ xs.map SqlItem.text, ',' ∉ s.toList := by
    intro xs s hs
    obtain ⟨x, -, rfl⟩ := List.mem_map.1 hs
    exact x.comma_not_mem_text
  have htexts := Text.join_comma_inj (hcomma _) (hcomma _) (by simp) (by simp) hlist
  have hitems := List.map_injective_iff.2 (fun _ _ => SqlItem.item_text_inj) htexts
  cases hitems
  rfl

theorem text_of_negatedText {p q : SqlMembership} (h : p.negatedText = q.negatedText) :
    p.text = q.text := by
  have hchars := congrArg String.toList h
  simp only [negatedText, String.toList_append, List.append_cancel_left_eq,
    List.append_cancel_right_eq] at hchars
  exact String.toList_inj.1 hchars

end SqlMembership

end QueryClause
