import QueryClause.Text.Blank
import QueryClause.Text.Integer

/-!
# The decimal notation of integers

It is made of digits, with a hyphen in front of negative numbers and no needless zero
(`Text.head_digits`), and no two numbers share it (`Text.ofInt_inj`).  In a longer text, a run of
such characters ends at the first one that is of another kind (`Text.takeWhile_run`,
`Text.dropWhile_run`).
-/

namespace QueryClause.Text

/-! ### Runs of characters -/

section Run

variable {p : Char → Bool} {run rest : List Char}

theorem takeWhile_run (hrun : ∀ c ∈ run, p c = true)
    (hrest : ∀ c, rest.head? = some c → p c = false) : (run ++ rest).takeWhile p = run := by
  rw [List.takeWhile_append_of_pos hrun]
  cases rest with
  | nil => exact List.append_nil run
  | cons c rest => rw [List.takeWhile_cons, hrest c rfl]; exact List.append_nil run

theorem dropWhile_run (hrun : ∀ c ∈ run, p c = true)
    (hrest : ∀ c, rest.head? = some c → p c = false) : (run ++ rest).dropWhile p = rest := by
  rw [List.dropWhile_append_of_pos hrun]
  cases rest with
  | nil => rfl
  | cons c rest => rw [List.dropWhile_cons, hrest c rfl]; rfl

end Run

/-! ### Integers -/

theorem isDigit_of_mem_digits {n : Nat} {c : Char} (h : c ∈ digits n) : c.isDigit = true :=
  Nat.isDigit_of_mem_toDigits (by decide) (by decide) h

theorem isDigit_of_mem_padded {k n : Nat} {c : Char} (h : c ∈ List.replicate k '0' ++ digits n) :
    c.isDigit = true := by
  rcases List.mem_append.1 h with h | h
  · obtain rfl := List.eq_of_mem_replicate h
    rfl
  · exact isDigit_of_mem_digits h

/-- No digit is blank. -/
theorem isBlank_of_isDigit {c : Char} (h : c.isDigit = true) : isBlank c = false := by
  simp only [Char.isDigit, Bool.and_eq_true, decide_eq_true_eq, ge_iff_le,
    UInt32.le_iff_toNat_le] at h
  have hlow : 0x30 ≤ c.toNat := h.1
  have hhigh : c.toNat ≤ 0x39 := h.2
  rw [isBlank, CharSet.contains, blanks]
  simp only [CharSet.hasCode, Bool.and_eq_false_iff, Bool.or_eq_false_iff, decide_eq_false_iff_not]
  omega

theorem digits_ne_nil (n : Nat) : digits n ≠ [] := Nat.toDigits_ne_nil

/-- Only zero starts with a zero. -/
theorem head_digits {n : Nat} (h : 0 < n) : (digits n).head? ≠ some '0' := by
  induction n using Nat.strongRecOn with
  | ind n ih =>
    by_cases hlt : n < 10
    · have hsmall : ∀ k < 10, 0 < k → [Nat.digitChar k].head? ≠ some '0' := by decide
      rw [digits, Nat.toDigits_of_lt_base hlt]
      exact hsmall n hlt h
    · have hle : 10 ≤ n := Nat.le_of_not_lt hlt
      have hlead := ih (n / 10) (by omega) (by omega)
      rw [digits] at hlead ⊢
      rw [Nat.toDigits_of_base_le (by decide) hle, List.head?_append]
      cases hhead : (Nat.toDigits 10 (n / 10)).head? with
      | none => exact absurd (List.head?_eq_none_iff.1 hhead) Nat.toDigits_ne_nil
      | some c =>
        rw [hhead] at hlead
        exact hlead

theorem digits_inj {m n : Nat} (h : digits m = digits n) : m = n := by
  rw [← Nat.ofDigitChars_ten_toDigits (n := m), ← Nat.ofDigitChars_ten_toDigits (n := n)]
  exact congrArg (Nat.ofDigitChars 10 · 0) h

theorem toList_ofInt (n : Int) :
    (ofInt n).toList = (if n < 0 then ['-'] else []) ++ digits n.natAbs := by
  unfold ofInt
  split <;> simp

/-- The characters of an integer. -/
theorem isDigit_or_of_mem_ofInt {n : Int} {c : Char} (h : c ∈ (ofInt n).toList) :
    c.isDigit = true ∨ c = '-' := by
  rw [toList_ofInt, List.mem_append] at h
  rcases h with h | h
  · split at h
    · exact .inr (List.mem_singleton.1 h)
    · cases h
  · exact .inl (isDigit_of_mem_digits h)

theorem ofInt_ne_nil (n : Int) : (ofInt n).toList ≠ [] := by
  rw [toList_ofInt]
  exact fun h => digits_ne_nil _ (List.append_eq_nil_iff.1 h).2

theorem hyphen_not_mem_digits {n : Nat} : '-' ∉ digits n := fun h => by
  cases isDigit_of_mem_digits h

theorem ofInt_inj {m n : Int} (h : ofInt m = ofInt n) : m = n := by
  have hchars : (ofInt m).toList = (ofInt n).toList := by rw [h]
  rw [toList_ofInt, toList_ofInt] at hchars
  by_cases hm : m < 0 <;> by_cases hn : n < 0
  · simp only [hm, hn, if_true, List.singleton_append, List.cons.injEq, true_and] at hchars
    have := digits_inj hchars
    omega
  · simp only [hm, hn, if_true, if_false, List.singleton_append, List.nil_append] at hchars
    exact absurd (hchars ▸ List.mem_cons_self) hyphen_not_mem_digits
  · simp only [hm, hn, if_true, if_false, List.singleton_append, List.nil_append] at hchars
    exact absurd (hchars ▸ List.mem_cons_self) hyphen_not_mem_digits
  · simp only [hm, hn, if_false, List.nil_append] at hchars
    have := digits_inj hchars
    omega

/-! ### Numbers with zeros in front -/

theorem toList_padded (width n : Nat) :
    (padded width n).toList = List.replicate (width - (digits n).length) '0' ++ digits n :=
  String.toList_ofList

theorem isDigit_of_mem_toList_padded {width n : Nat} {c : Char} (h : c ∈ (padded width n).toList) :
    c.isDigit = true := by
  rw [toList_padded] at h
  exact isDigit_of_mem_padded h

theorem length_padded {width n : Nat} (hwidth : 0 < width) (h : n < tenTo width) :
    (padded width n).toList.length = width := by
  have hdigits : (digits n).length ≤ width := (Nat.length_toDigits_le_iff (by decide) hwidth).2 h
  rw [toList_padded, List.length_append, List.length_replicate]
  omega

theorem padded_ne_nil {width n : Nat} : (padded width n).toList ≠ [] := by
  rw [toList_padded]
  exact fun h => digits_ne_nil n (List.append_eq_nil_iff.1 h).2

theorem ofDigitChars_padded (width n : Nat) :
    Nat.ofDigitChars 10 (padded width n).toList 0 = n := by
  rw [toList_padded, Nat.ofDigitChars_append, Nat.ofDigitChars_replicate_zero, Nat.mul_zero]
  exact Nat.ofDigitChars_ten_toDigits

theorem trimStart_padded (width n : Nat) (rest : List Char) :
    trimStart ((padded width n).toList ++ rest) = (padded width n).toList ++ rest := by
  cases hlist : (padded width n).toList with
  | nil => exact absurd hlist padded_ne_nil
  | cons c cs =>
    have hc : c.isDigit = true := isDigit_of_mem_toList_padded (hlist ▸ List.mem_cons_self)
    exact List.dropWhile_cons_of_neg (by simp [isBlank_of_isDigit hc])

end QueryClause.Text
