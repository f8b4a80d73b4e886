import QueryClause.Proofs.Sql.Rendering
import Mathlib.Data.Rat.Floor
import Mathlib.Tactic.Linarith
import Mathlib.Tactic.Positivity

/-!
# What a numeral is worth after the cut

`Numeral.value?` reads a numeral as a rational number, and `Numeral.truncate` is the integer part of
a number.  Oracle gets the first `Target.maxNumberLength` characters of a number with a fraction, so
a cut behind the point leaves the integer part alone, and one in front of it divides the integer
part by a power of ten (`Numeral.exists_value?_cut`).

The integers of 64 bits have no more characters than that.  Of a decimal the integer part is kept if
and only if its sign and the digits in front of its point are no more than that
(`Target.truncate_fractional_iff`).
-/

namespace QueryClause

/-! ### Digits -/

namespace Text

variable {ds places : List Char}

/-- The number that decimal digits stand for. -/
def number (ds : List Char) : Nat := Nat.ofDigitChars 10 ds 0

theorem number_digits (n : Nat) : number (digits n) = n := Nat.ofDigitChars_ten_toDigits

theorem number_append (ds places : List Char) :
    number (ds ++ places) = 10 ^ places.length * number ds + number places := by
  rw [number, Nat.ofDigitChars_append, Nat.ofDigitChars_eq_ofDigitChars_zero]
  rfl

theorem number_lt (h : ∀ c ∈ ds, c.isDigit = true) : number ds < 10 ^ ds.length := by
  induction ds with
  | nil => decide
  | cons c ds ih =>
    have hrest := ih fun c hc => h c (List.mem_cons_of_mem _ hc)
    have hcode : 48 ≤ c.toNat ∧ c.toNat ≤ 57 := by
      simpa [Char.isDigit, UInt32.le_iff_toNat_le] using h c List.mem_cons_self
    have hfirst : number [c] ≤ 9 := by
      show 10 * 0 + (c.toNat - 48) ≤ 9
      omega
    have hsplit := number_append [c] ds
    rw [List.singleton_append] at hsplit
    rw [hsplit, List.length_cons, Nat.pow_succ]
    have := Nat.mul_le_mul_left (10 ^ ds.length) hfirst
    omega

/-- The digits in front of the places are the quotient. -/
theorem number_append_div (h : ∀ c ∈ places, c.isDigit = true) :
    number (ds ++ places) / 10 ^ places.length = number ds := by
  rw [number_append, Nat.mul_add_div (Nat.pow_pos (by decide)), Nat.div_eq_of_lt (number_lt h),
    Nat.add_zero]

theorem number_take (h : ∀ c ∈ ds, c.isDigit = true) (k : Nat) :
    number (ds.take k) = number ds / 10 ^ (ds.length - k) := by
  have hdrop : ∀ c ∈ ds.drop k, c.isDigit = true := fun c hc => h c (List.mem_of_mem_drop hc)
  rw [← number_append_div hdrop, List.take_append_drop, List.length_drop]

end Text

/-! ### Numerals -/

namespace Numeral

/-- The number with the given sign in front. -/
def withSign {α : Type} [Neg α] (negative : Bool) (x : α) : α := if negative then -x else x

/-- The number with the given digits in front of its point and behind it. -/
def ofParts (whole places : List Char) : ℚ :=
  Text.number (whole ++ places) / (10 ^ places.length : Nat)

/-- The number that digits stand for, possibly with a point behind the first of them. -/
def unsigned? (s : List Char) : Option ℚ :=
  let whole := s.takeWhile Char.isDigit
  if whole.isEmpty then none
  else
    match s.dropWhile Char.isDigit with
    | [] => some (ofParts whole [])
    | c :: places =>
      if c == '.' && places.all Char.isDigit then some (ofParts whole places) else none

/-- The number that a numeral stands for. -/
def value? (s : List Char) : Option ℚ :=
  match s with
  | '-' :: s => (unsigned? s).map (withSign true)
  | s => unsigned? s

/-- The integer part of a number, toward zero. -/
def truncate (q : ℚ) : Int := if q < 0 then ⌈q⌉ else ⌊q⌋

variable {whole places tail : List Char} {q : ℚ}

theorem truncate_withSign (negative : Bool) (hq : 0 ≤ q) :
    truncate (withSign negative q) = withSign negative ⌊q⌋ := by
  cases negative with
  | false => exact if_neg hq.not_gt
  | true =>
    show truncate (-q) = -⌊q⌋
    rw [truncate, ← Int.ceil_neg]
    split
    · rfl
    · have hzero : q = 0 := by linarith
      simp [hzero]

theorem floor_ofParts (h : ∀ c ∈ places, c.isDigit = true) :
    ⌊ofParts whole places⌋ = Text.number whole := by
  rw [ofParts, Rat.floor_natCast_div_natCast, ← Int.natCast_ediv, Text.number_append_div h]

theorem ofParts_nonneg : 0 ≤ ofParts whole places := by
  unfold ofParts
  positivity

/-- What may stand behind the first digits: nothing, or a point and more digits, even none. -/
def IsTail (s : List Char) : Prop :=
  s = [] ∨ ∃ places, s = '.' :: places ∧ ∀ c ∈ places, c.isDigit = true

theorem IsTail.take (h : IsTail tail) (k : Nat) : IsTail (tail.take k) := by
  rcases h with rfl | ⟨places, rfl, hplaces⟩
  · exact .inl List.take_nil
  · cases k with
    | zero => exact .inl rfl
    | succ k => exact .inr ⟨_, rfl, fun c hc => hplaces c (List.mem_of_mem_take hc)⟩

theorem IsTail.head (h : IsTail tail) : ∀ c, tail.head? = some c → c.isDigit = false := by
  rcases h with rfl | ⟨places, rfl, -⟩
  · nofun
  · rintro _ ⟨⟩
    rfl

theorem IsTail.isDigit (h : IsTail tail) : ∀ c ∈ tail.tail, c.isDigit = true := by
  rcases h with rfl | ⟨places, rfl, hplaces⟩
  · nofun
  · exact hplaces

theorem unsigned?_append (hne : whole ≠ []) (hwhole : ∀ c ∈ whole, c.isDigit = true)
    (htail : IsTail tail) : unsigned? (whole ++ tail) = some (ofParts whole tail.tail) := by
  unfold unsigned?
  rw [Text.takeWhile_run hwhole htail.head, Text.dropWhile_run hwhole htail.head]
  dsimp only
  rw [if_neg (by simpa using hne)]
  rcases htail with rfl | ⟨places, rfl, hplaces⟩
  · rfl
  · simp [List.all_eq_true.2 hplaces]

theorem value?_signed (negative : Bool) (hne : whole ≠ [])
    (hwhole : ∀ c ∈ whole, c.isDigit = true) (htail : IsTail tail) :
    value? (FloatText.signed negative (whole ++ tail)).toList =
      some (withSign negative (ofParts whole tail.tail)) := by
  have hread := unsigned?_append hne hwhole htail
  rw [FloatText.signed, String.toList_ofList]
  cases negative with
  | true => exact congrArg (Option.map (withSign true)) hread
  | false =>
    -- the first character is a digit, so nothing is taken for a sign
    rw [if_neg Bool.false_ne_true]
    unfold value?
    split
    · rename_i s hs
      obtain ⟨c, whole, rfl⟩ := List.exists_cons_of_ne_nil hne
      obtain rfl : c = '-' := (List.cons.inj hs).1
      cases hwhole _ List.mem_cons_self
    · exact hread

theorem withSign_inj {negative : Bool} {m n : Nat} :
    withSign negative (m : Int) = withSign negative (n : Int) ↔ m = n := by
  cases negative with
  | true =>
    show -(m : Int) = -n ↔ m = n
    omega
  | false => exact Int.ofNat_inj

theorem withSign_div (negative : Bool) (m n : Nat) :
    withSign negative ((m / n : Nat) : Int) = (withSign negative (m : Int)).tdiv n := by
  cases negative with
  | true =>
    show -((m / n : Nat) : Int) = (-(m : Int)).tdiv n
    rw [Int.neg_tdiv, Int.ofNat_tdiv]
  | false => exact Int.ofNat_tdiv m n

/-! ### The cut -/

theorem take_signed (negative : Bool) (s : List Char) {m : Nat} (hm : 0 < m) :
    (FloatText.signed negative s).toList.take m =
      (FloatText.signed negative (s.take (m - negative.toNat))).toList := by
  obtain ⟨m, rfl⟩ := Nat.exists_eq_succ_of_ne_zero hm.ne'
  rw [FloatText.signed, FloatText.signed, String.toList_ofList, String.toList_ofList]
  cases negative <;> rfl

/-- A cut behind the point leaves the integer part alone, and one in front of it takes digits off
the end of the integer part. -/
theorem exists_value?_cut (negative : Bool) (hne : whole ≠ [])
    (hwhole : ∀ c ∈ whole, c.isDigit = true) (htail : IsTail tail) {m : Nat} (hm : 1 < m) :
    ∃ q, value? ((FloatText.signed negative (whole ++ tail)).toList.take m) = some q ∧
      truncate q = withSign negative
        ((Text.number whole / 10 ^ (whole.length + negative.toNat - m) : Nat) : Int) := by
  have hsign : negative.toNat ≤ 1 := negative.toNat_le
  -- the sign takes one of the characters, and at least one is left for the digits
  have hcut : whole.take (m - negative.toNat) ≠ [] := by
    refine List.ne_nil_of_length_pos ?_
    have hpos := List.length_pos_iff.2 hne
    rw [List.length_take]
    omega
  have hdigits : ∀ c ∈ whole.take (m - negative.toNat), c.isDigit = true :=
    fun c hc => hwhole c (List.mem_of_mem_take hc)
  have hplaces := htail.take (m - negative.toNat - whole.length)
  have hread := value?_signed negative hcut hdigits hplaces
  rw [← List.take_append, ← take_signed negative _ (by omega)] at hread
  refine ⟨_, hread, ?_⟩
  rw [truncate_withSign negative ofParts_nonneg, floor_ofParts hplaces.isDigit,
    Text.number_take hwhole]
  congr 4
  omega

end Numeral

/-! ### Decimals -/

namespace Decimal

open Numeral

variable (d : Decimal)

/-- The number that a decimal stands for. -/
def value : ℚ := withSign d.negative (d.mantissa / (10 ^ d.scale : Nat))

/-- The digits in front of the point. -/
def wholeDigits : List Char := d.paddedDigits.take (d.paddedDigits.length - d.scale)

/-- The point and the places behind it. -/
def tailDigits : List Char :=
  if d.scale = 0 then [] else '.' :: d.paddedDigits.drop (d.paddedDigits.length - d.scale)

/-- How many characters stand in front of the point. -/
def wholeLength : Nat := (d.text.toList.takeWhile (· != '.')).length

theorem number_paddedDigits : Text.number d.paddedDigits = d.mantissa := by
  rw [paddedDigits, Text.number_append, Text.number_digits, Text.number,
    Nat.ofDigitChars_replicate_zero, Nat.mul_zero, Nat.mul_zero, Nat.zero_add]

theorem isDigit_wholeDigits : ∀ c ∈ d.wholeDigits, c.isDigit = true :=
  fun _ hc => isDigit_of_mem_paddedDigits (List.mem_of_mem_take hc)

theorem length_wholeDigits : d.wholeDigits.length = d.paddedDigits.length - d.scale := by
  rw [wholeDigits, List.length_take]
  omega

theorem wholeDigits_ne_nil : d.wholeDigits ≠ [] := by
  refine List.ne_nil_of_length_pos ?_
  have := d.scale_lt_length
  rw [length_wholeDigits]
  omega

theorem number_wholeDigits : Text.number d.wholeDigits = d.mantissa / 10 ^ d.scale := by
  have hlength := d.scale_lt_length
  have hscale : d.paddedDigits.length - (d.paddedDigits.length - d.scale) = d.scale := by omega
  rw [wholeDigits, Text.number_take fun _ => isDigit_of_mem_paddedDigits, number_paddedDigits,
    hscale]

theorem isTail_tailDigits : IsTail d.tailDigits := by
  unfold tailDigits
  split
  · exact .inl rfl
  · exact .inr ⟨_, rfl, fun _ hc => isDigit_of_mem_paddedDigits (List.mem_of_mem_drop hc)⟩

theorem text_eq : d.text = FloatText.signed d.negative (d.wholeDigits ++ d.tailDigits) := by
  rw [text, FloatText.signed, wholeDigits, tailDigits]
  by_cases hscale : d.scale = 0
  · simp [hscale]
  · simp [hscale]

theorem wholeLength_eq : d.wholeLength = d.wholeDigits.length + d.negative.toNat := by
  have hwhole : ∀ c ∈ d.wholeDigits, (c != '.') = true := fun c hc => by
    refine bne_iff_ne.2 ?_
    rintro rfl
    cases d.isDigit_wholeDigits _ hc
  have htail : ∀ c, d.tailDigits.head? = some c → (c != '.') = false := by
    rcases d.isTail_tailDigits with htail | ⟨places, htail, -⟩ <;> rw [htail]
    · nofun
    · rintro _ ⟨⟩
      rfl
  rw [wholeLength, text_eq, FloatText.signed, String.toList_ofList]
  cases d.negative with
  | true => simp [Text.takeWhile_run hwhole htail]
  | false => simp [Text.takeWhile_run hwhole htail]

theorem truncate_value :
    truncate d.value = withSign d.negative ((d.mantissa / 10 ^ d.scale : Nat) : Int) := by
  rw [value, truncate_withSign d.negative (by positivity), Rat.floor_natCast_div_natCast,
    Int.natCast_ediv]

/-- With two digits in front of the point, the integer part is not zero. -/
theorem mantissa_div_pos (h : 1 < d.wholeDigits.length) : 0 < d.mantissa / 10 ^ d.scale := by
  have hdigits : d.scale + 1 < (Text.digits d.mantissa).length := by
    rw [length_wholeDigits, paddedDigits, List.length_append, List.length_replicate] at h
    omega
  have hle : 10 ^ (d.scale + 1) ≤ d.mantissa := by
    rw [← Nat.not_lt, ← Nat.length_toDigits_le_iff (by decide) (Nat.succ_pos _)]
    exact Nat.not_le.2 hdigits
  refine Nat.div_pos ?_ (Nat.pow_pos (by decide))
  exact (Nat.pow_le_pow_right (by decide) (Nat.le_succ _)).trans hle

/-- What the integer part of a decimal is after its text has been cut. -/
theorem exists_value?_cut {m : Nat} (hm : 1 < m) :
    ∃ q, value? (d.text.toList.take m) = some q ∧
      truncate q = (truncate d.value).tdiv ((10 ^ (d.wholeLength - m) : Nat) : Int) := by
  obtain ⟨q, hq, htruncate⟩ :=
    Numeral.exists_value?_cut d.negative d.wholeDigits_ne_nil d.isDigit_wholeDigits
      d.isTail_tailDigits hm
  refine ⟨q, text_eq d ▸ hq, ?_⟩
  rw [htruncate, truncate_value, wholeLength_eq, number_wholeDigits]
  exact withSign_div ..

/-- The cut changes the integer part if and only if it is made in front of the point. -/
theorem tdiv_truncate_eq_iff {m : Nat} (hm : 1 < m) :
    (truncate d.value).tdiv ((10 ^ (d.wholeLength - m) : Nat) : Int) = truncate d.value ↔
      d.wholeLength ≤ m := by
  rw [truncate_value, ← withSign_div, withSign_inj]
  constructor
  · intro h
    by_contra hlong
    -- a cut in front of the point leaves a digit and takes one, so the integer part is not zero
    have hsign := d.negative.toNat_le
    have hlength := d.wholeLength_eq
    have hpos := d.mantissa_div_pos (by omega)
    have hfactor : 1 < 10 ^ (d.wholeLength - m) := Nat.one_lt_pow (by omega) (by decide)
    exact (Nat.div_lt_self hpos hfactor).ne h
  · intro h
    rw [Nat.sub_eq_zero_of_le h, Nat.pow_zero, Nat.div_one]

end Decimal

/-! ### Integers -/

theorem Text.length_ofInt_le (n : Int64) :
    (ofInt n.toInt).toList.length ≤ Target.maxNumberLength := by
  have hlow := n.le_toInt
  have hhigh := n.toInt_lt
  have hdigits : (digits n.toInt.natAbs).length ≤ 19 := by
    rw [digits, Nat.length_toDigits_le_iff (by decide) (by decide)]
    omega
  rw [toList_ofInt, List.length_append, Target.maxNumberLength]
  split
  · rw [List.length_singleton]
    omega
  · rw [List.length_nil]
    omega

theorem Numeral.value?_ofInt (n : Int) : value? (Text.ofInt n).toList = some (n : ℚ) := by
  have hdigits : ∀ c ∈ Text.digits n.natAbs, c.isDigit = true :=
    fun _ hc => Text.isDigit_of_mem_digits hc
  rw [Text.ofInt_eq_signed, ← List.append_nil (Text.digits _),
    value?_signed _ (Text.digits_ne_nil _) hdigits (.inl rfl), ofParts, List.tail_nil,
    List.append_nil, Text.number_digits, List.length_nil, Nat.pow_zero, Nat.cast_one, div_one]
  by_cases hn : n < 0
  · simp [hn, withSign, abs_of_neg hn]
  · simp [hn, withSign, abs_of_nonneg (Int.not_lt.1 hn)]

namespace Target

open Numeral

/-- Oracle gets a text of the first characters of a number whose type has a fraction. -/
theorem literal_number {t : Target} (ht : t.dialect = .oracle) {v : Value} {s : String}
    (htext : v.numericText? = some s) {declared : HostType}
    (hdeclared : declared.underlying ∈ [.float32, .float64, .decimal] ∨
      declared.underlying = .null ∧ ∃ d, v = .decimal d) :
    t.literal v declared =
      t.dialect.quoteString (String.ofList (s.toList.take maxNumberLength)) := by
  obtain ⟨dialect, compact⟩ := t
  obtain rfl : dialect = .oracle := ht
  simp only [List.mem_cons, List.not_mem_nil, or_false] at hdeclared
  show oracleLiteral _ v declared = _
  unfold oracleLiteral
  rcases hdeclared with h | ⟨h, d, rfl⟩
  · cases v <;> cases htext <;> rcases h with h | h | h <;> simp only [h] <;> rfl
  · obtain rfl := Option.some.inj htext
    simp only [h]
    rfl

theorem readLiteral?_number {t : Target} (ht : t.dialect = .oracle) {v : Value} {s : String}
    (htext : v.numericText? = some s) {declared : HostType}
    (hdeclared : declared.underlying ∈ [.float32, .float64, .decimal] ∨
      declared.underlying = .null ∧ ∃ d, v = .decimal d) :
    t.dialect.readLiteral? (t.literal v declared).toList =
      some (.text (String.ofList (s.toList.take maxNumberLength)), []) := by
  have hends : (SqlLiteral.text (String.ofList (s.toList.take maxNumberLength))).EndsBefore [] :=
    nofun
  rw [literal_number ht htext hdeclared, ← Dialect.readLiteral?_quoteString _ hends,
    List.append_nil]

/-- **Oracle keeps the integer part of a number unless twenty characters do not reach its point.**
The text that Oracle gets for a decimal, read as a numeral, has the integer part of the decimal,
less the digits that stand behind the first `maxNumberLength` characters; so it has the same integer
part if and only if there are none.  For an integer under a type with a fraction it is the integer
itself. -/
theorem truncate_number_iff {t : Target} (ht : t.dialect = .oracle) (declared : HostType) :
    (∀ d : Decimal, declared.underlying ∈ [.float32, .float64, .decimal, .null] →
      ∃ s q, t.dialect.readLiteral? (t.literal (.decimal d) declared).toList =
          some (.text s, []) ∧ value? s.toList = some q ∧
        truncate q =
          (truncate d.value).tdiv ((10 ^ (d.wholeLength - maxNumberLength) : Nat) : Int) ∧
        (truncate q = truncate d.value ↔ d.wholeLength ≤ maxNumberLength)) ∧
    ∀ (v : Value) (n : Int64), (v = .int n ∨ ∃ e, v = .enum e n) →
      declared.underlying ∈ [.float32, .float64, .decimal] →
      ∃ s q, t.dialect.readLiteral? (t.literal v declared).toList = some (.text s, []) ∧
        value? s.toList = some q ∧ q = n.toInt := by
  refine ⟨fun d hdeclared => ?_, fun v n hv hdeclared => ?_⟩
  · obtain ⟨q, hq, htruncate⟩ := d.exists_value?_cut (m := maxNumberLength) (by decide)
    have hfraction : declared.underlying ∈ [.float32, .float64, .decimal] ∨
        declared.underlying = .null ∧ ∃ d', Value.decimal d = .decimal d' := by
      simpa [or_assoc] using hdeclared
    refine ⟨_, q, readLiteral?_number ht rfl hfraction, by rwa [String.toList_ofList],
      htruncate, ?_⟩
    rw [htruncate]
    exact d.tdiv_truncate_eq_iff (by decide)
  · have htext : v.numericText? = some (Text.ofInt n.toInt) := by
      rcases hv with rfl | ⟨e, rfl⟩ <;> rfl
    refine ⟨_, n.toInt, readLiteral?_number ht htext (.inl hdeclared), ?_, rfl⟩
    rw [String.toList_ofList, List.take_of_length_le (Text.length_ofInt_le n), value?_ofInt]

theorem truncate_number_iff_smallest :
    let t : Target := ⟨.oracle, false⟩
    let d : Decimal := ⟨true, 123456789123456789012345, 15, by decide, by decide⟩
    t.dialect = .oracle ∧ HostType.decimal.underlying ∈ [HostType.float32, .float64, .decimal] ∧
    (∃ s q, t.dialect.readLiteral? (t.literal (.decimal d) .decimal).toList = some (.text s, []) ∧
      value? s.toList = some q ∧ truncate q = truncate d.value) ∧
    ∃ s q, t.dialect.readLiteral? (t.literal (.int Int64.minValue) .decimal).toList =
      some (.text s, []) ∧ value? s.toList = some q ∧ q = Int64.minValue.toInt := by
  intro t d
  obtain ⟨hdecimal, hinteger⟩ := truncate_number_iff (t := t) rfl .decimal
  obtain ⟨s, q, hread, hq, -, hiff⟩ := hdecimal d (by simp [HostType.underlying])
  exact ⟨rfl, by simp [HostType.underlying], ⟨s, q, hread, hq, hiff.2 (by decide)⟩,
    hinteger _ _ (.inl rfl) (by simp [HostType.underlying])⟩

/-- Of the largest decimal the last nine digits are lost. -/
theorem not_truncate_number :
    let t : Target := ⟨.oracle, false⟩
    let d : Decimal := ⟨false, 79228162514264337593543950335, 0, by decide, by decide⟩
    t.literal (.decimal d) .decimal = "'79228162514264337593'" ∧
    ¬ ∃ s q, t.dialect.readLiteral? (t.literal (.decimal d) .decimal).toList =
      some (.text s, []) ∧ value? s.toList = some q ∧ truncate q = truncate d.value := by
  intro t d
  refine ⟨by decide, ?_⟩
  rintro ⟨s, q, hread, hq, hsame⟩
  have htype : HostType.decimal.underlying ∈ [HostType.float32, .float64, .decimal] := by
    simp [HostType.underlying]
  rw [readLiteral?_number (t := t) rfl (v := .decimal d) rfl (.inl htype)] at hread
  obtain rfl := SqlLiteral.text.inj (congrArg Prod.fst (Option.some.inj hread))
  obtain ⟨q', hq', hcut⟩ := d.exists_value?_cut (m := maxNumberLength) (by decide)
  rw [String.toList_ofList, hq'] at hq
  obtain rfl := Option.some.inj hq
  rw [hcut, d.tdiv_truncate_eq_iff (by decide)] at hsame
  exact absurd hsame (by decide)

end Target

end QueryClause
