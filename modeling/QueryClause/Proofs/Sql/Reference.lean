import QueryClause.Proofs.Sql.Condition
import QueryClause.Proofs.Sql.Literal
import QueryClause.Proofs.Text.LetterCase

/-!
# References to columns

In the generic dialect an identifier, alone or behind a qualifier, is a reference: a word that reads
as nothing else (`isReference_quoteIfNeeded`, `isReference_qualified`).  It is not the null literal
either, in any letter case, and neither is a number (`not_null_quoteIfNeeded`, `not_null_ofInt`): a
name without quotes is no reserved word (`IsBareName.map_toLower_ne`).
-/

namespace QueryClause

/-! ### Quotes -/

theorem quoteAfter_doubled (name : List Char) :
    quoteAfter true (Identifier.doubled '"' name) = some true := by
  induction name with
  | nil => rfl
  | cons c rest ih =>
    rw [Identifier.doubled, List.flatMap_cons, quoteAfter_append]
    have hc : quoteAfter true (if c = '"' then ['"', '"'] else [c]) = some true := by
      split
      · rfl
      · rename_i hne
        simp [quoteAfter, hne]
    rw [hc]
    exact ih

theorem isWord_quoteWith (name : String) : IsWord (Identifier.quoteWith '"' '"' name).toList := by
  rw [Identifier.quoteWith, String.toList_ofList]
  refine ⟨by simp, ?_⟩
  rw [List.cons_append, quoteAfter, if_neg (by decide), if_pos rfl, quoteAfter_append,
    Bool.not_false, quoteAfter_doubled]
  rfl

theorem isUnquoted_of_isBareChar {c : Char} (h : Identifier.isBareChar c = true) :
    isDelimiter c = false ∧ c ≠ '"' ∧ c ≠ '.' ∧ c ≠ '-' := by
  have hmem : c ∉ [' ', '(', ')', '=', '"', '.', '-'] := by
    intro hmem
    simp only [List.mem_cons, List.not_mem_nil, or_false] at hmem
    rcases hmem with rfl | rfl | rfl | rfl | rfl | rfl | rfl <;> cases h
  simp only [List.mem_cons, List.not_mem_nil, or_false, not_or] at hmem
  obtain ⟨h1, h2, h3, h4, h5, h6, h7⟩ := hmem
  refine ⟨?_, h5, h6, h7⟩
  simp [isDelimiter, h1, h2, h3, h4]

/-! ### Identifiers -/

/-- A bare identifier: it starts with no digit and is not reserved. -/
structure IsBareName (name : String) : Prop where
  nonempty : name.toList ≠ []
  bare : ∀ c ∈ name.toList, Identifier.isBareChar c = true
  notNumeric : ∀ c, name.toList.head? = some c → Text.isNumeric c = false
  notReserved : Dialect.lowered name ∉ Identifier.reservedWords

theorem isBareName_of_not_needsQuoting {name : String} (h : Identifier.needsQuoting name = false) :
    IsBareName name := by
  simp only [Identifier.needsQuoting, Bool.or_eq_false_iff, Bool.not_eq_false'] at h
  obtain ⟨⟨⟨hreserved, hempty⟩, hbare⟩, hnumeric⟩ := h
  refine ⟨?_, fun c hc => List.all_eq_true.1 hbare c hc, fun c hc => ?_, fun hmem => ?_⟩
  · intro hnil
    rw [String.toList_eq_nil_iff.1 hnil] at hempty
    cases hempty
  · rw [hc] at hnumeric
    exact hnumeric
  · rw [List.contains_eq_mem, decide_eq_false_iff_not] at hreserved
    exact hreserved hmem

/-- An identifier is a bare name or begins with a quote. -/
theorem isBareName_or_quoted (name : String) :
    (Identifier.quoteIfNeeded name = name ∧ IsBareName name) ∨
      Identifier.quoteIfNeeded name = Identifier.quoteWith '"' '"' name := by
  unfold Identifier.quoteIfNeeded
  cases h : Identifier.needsQuoting name with
  | true => exact .inr rfl
  | false => exact .inl ⟨rfl, isBareName_of_not_needsQuoting h⟩

theorem head_quoteWith (name : String) :
    (Identifier.quoteWith '"' '"' name).toList.head? = some '"' := by
  rw [Identifier.quoteWith, String.toList_ofList]
  rfl

theorem isNumeric_of_isDigit {c : Char} (h : c.isDigit = true) : Text.isNumeric c = true := by
  simp only [Char.isDigit, Bool.and_eq_true, decide_eq_true_eq, ge_iff_le,
    UInt32.le_iff_toNat_le] at h
  have hlow : 0x30 ≤ c.toNat := h.1
  have hhigh : c.toNat < 0x3A := Nat.lt_succ_of_le h.2
  unfold Text.isNumeric CharSet.contains Text.numbers
  rw [CharSet.hasCode, decide_eq_true hlow, decide_eq_true hhigh]
  rfl

theorem IsBareName.isWord {name : String} (h : IsBareName name) : IsWord name.toList :=
  isWord_of_unquoted h.nonempty fun c hc =>
    ⟨(isUnquoted_of_isBareChar (h.bare c hc)).1, (isUnquoted_of_isBareChar (h.bare c hc)).2.1⟩

theorem isWord_quoteIfNeeded (name : String) : IsWord (Identifier.quoteIfNeeded name).toList := by
  rcases isBareName_or_quoted name with ⟨heq, hbare⟩ | heq <;> rw [heq]
  · exact hbare.isWord
  · exact isWord_quoteWith name

/-- An identifier begins neither like a number nor like its sign. -/
theorem notNumber_quoteIfNeeded (name : String) :
    ∀ c, (Identifier.quoteIfNeeded name).toList.head? = some c → c.isDigit = false ∧ c ≠ '-' := by
  intro c hc
  rcases isBareName_or_quoted name with ⟨heq, hbare⟩ | heq <;> rw [heq] at hc
  · refine ⟨?_, (isUnquoted_of_isBareChar (hbare.bare c (List.mem_of_head? hc))).2.2.2⟩
    cases hdigit : c.isDigit with
    | false => rfl
    | true =>
      have hnumeric := hbare.notNumeric c hc
      rw [isNumeric_of_isDigit hdigit] at hnumeric
      cases hnumeric
  · rw [head_quoteWith] at hc
    cases hc
    exact ⟨rfl, by decide⟩

theorem isReference_quoteIfNeeded (name : String) :
    IsReference (Identifier.quoteIfNeeded name) := by
  refine ⟨isWord_quoteIfNeeded name, ?_, notNumber_quoteIfNeeded name⟩
  rcases isBareName_or_quoted name with ⟨heq, hbare⟩ | heq <;> rw [heq]
  · refine ⟨?_, ?_, ?_⟩
    all_goals
      rintro rfl
      exact hbare.notReserved (by decide +kernel)
  · refine ⟨?_, ?_, ?_⟩
    all_goals
      intro h
      have hhead := head_quoteWith name
      rw [h] at hhead
      cases hhead

theorem isReference_qualified (table column : String) :
    IsReference (Identifier.quoteIfNeeded table ++ "." ++ Identifier.quoteIfNeeded column) := by
  have htable := isWord_quoteIfNeeded table
  have hcolumn := isWord_quoteIfNeeded column
  have hdot : '.' ∈ (Identifier.quoteIfNeeded table ++ "." ++
      Identifier.quoteIfNeeded column).toList := by simp
  have hdotted : quoteAfter false ".".toList = some false := by decide
  refine ⟨⟨by simp, ?_⟩, ⟨?_, ?_, ?_⟩, fun c hc => ?_⟩
  · rw [String.toList_append, String.toList_append, quoteAfter_append, quoteAfter_append,
      htable.closed, Option.bind_some, hdotted, Option.bind_some, hcolumn.closed]
  · intro h
    rw [h] at hdot
    exact absurd hdot (by decide)
  · intro h
    rw [h] at hdot
    exact absurd hdot (by decide)
  · intro h
    rw [h] at hdot
    exact absurd hdot (by decide)
  · refine notNumber_quoteIfNeeded table c ?_
    cases hcs : (Identifier.quoteIfNeeded table).toList with
    | nil => exact absurd hcs htable.nonempty
    | cons c' rest =>
      rw [String.toList_append, String.toList_append, hcs] at hc
      exact hc

/-! ### The null literal -/

/-- A text is the null literal in some letter case. -/
def ReadsAsNull (s : String) : Prop := String.ofList (s.toList.map Char.toLower) = "null"

theorem ReadsAsNull.chars {s : String} (h : ReadsAsNull s) :
    s.toList.map Char.toLower = ['n', 'u', 'l', 'l'] := by
  rw [ReadsAsNull] at h
  rw [← String.toList_ofList (l := s.toList.map Char.toLower), h]
  rfl

/-- The characters that become a small letter. -/
theorem eq_of_toLower {c d : Char} (h : c.toLower = d) : c = d ∨ c.toNat + 32 = d.toNat := by
  unfold Char.toLower at h
  split at h
  · rename_i hupper
    right
    have hlast : c.val.toNat ≤ 90 := UInt32.le_iff_toNat_le.1 hupper.2
    rw [← h]
    change c.val.toNat + 32 = (c.val + ('a'.val - 'A'.val)).toNat
    rw [UInt32.toNat_add, show ('a'.val - 'A'.val).toNat = 32 from rfl, Nat.mod_eq_of_lt (by omega)]
  · exact .inl h

/-- A bare name is no reserved word, in any letter case. -/
theorem IsBareName.map_toLower_ne {name word : String} (hbare : IsBareName name)
    (hlatin : word.toList.all Char.isLower = true) (hreserved : word ∈ Identifier.reservedWords) :
    String.ofList (name.toList.map Char.toLower) ≠ word := by
  intro h
  have hchars : name.toList.map Char.toLower = word.toList := by rw [← h, String.toList_ofList]
  have hlowered : Dialect.lowered name = word := by
    rw [Dialect.lowered, Text.toLower_of_latin (List.all_eq_true.1 hlatin) hchars,
      String.ofList_toList]
  exact hbare.notReserved (hlowered ▸ hreserved)

theorem IsBareName.not_null {name : String} (hbare : IsBareName name) : ¬ ReadsAsNull name :=
  hbare.map_toLower_ne (by decide) (by decide)

theorem not_null_of_mem {s : String} {c : Char} (hmem : c ∈ s.toList)
    (hc : c.toLower ∉ ['n', 'u', 'l']) : ¬ ReadsAsNull s := by
  intro h
  have hmap : c.toLower ∈ ['n', 'u', 'l', 'l'] := h.chars ▸ List.mem_map_of_mem hmem
  simp_all

theorem not_null_quoteIfNeeded (name : String) :
    ¬ ReadsAsNull (Identifier.quoteIfNeeded name) := by
  rcases isBareName_or_quoted name with ⟨heq, hbare⟩ | heq <;> rw [heq]
  · exact hbare.not_null
  · exact not_null_of_mem (List.mem_of_head? (head_quoteWith name)) (by decide)

theorem not_null_qualified (table column : String) :
    ¬ ReadsAsNull (Identifier.quoteIfNeeded table ++ "." ++ Identifier.quoteIfNeeded column) :=
  not_null_of_mem (c := '.') (by simp) (by decide)

theorem not_null_ofInt (n : Int) : ¬ ReadsAsNull (Text.ofInt n) := by
  cases hcs : (Text.ofInt n).toList with
  | nil => exact absurd hcs (Text.ofInt_ne_nil n)
  | cons c rest =>
    have hmem : c ∈ (Text.ofInt n).toList := by rw [hcs]; exact List.mem_cons_self
    refine not_null_of_mem hmem fun hlower => ?_
    have hcode : 76 ≤ c.toNat := by
      simp only [List.mem_cons, List.not_mem_nil, or_false] at hlower
      rcases hlower with h | h | h <;> rcases eq_of_toLower h with rfl | h
      all_goals first | decide | (simp at h; omega)
    rcases Text.isDigit_or_of_mem_ofInt hmem with h | rfl
    · simp only [Char.isDigit, Bool.and_eq_true, decide_eq_true_eq, ge_iff_le,
        UInt32.le_iff_toNat_le] at h
      have hnine : c.toNat ≤ 57 := h.2
      omega
    · exact absurd hcode (by decide)

end QueryClause
