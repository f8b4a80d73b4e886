import QueryClause.Proofs.Eval.Compare
import Mathlib.Data.Int.ModEq

/-!
# Conversion to integers

A value that stands for a number is converted to an integer type in two steps: what is behind the
point is dropped, which has to leave an integer of 64 bits (`Value.integerPart_eq`), and of this
integer the low bits are kept that the type has (`IntType.wrap`).

The low bits are a number in the range of the type, as long as this range lies within 64 bits with a
sign.  It does not for the unsigned integers of 64 bits, and there the number stays as it is, below
zero or not (`Value.convert_integer`).  Low bits of low bits are low bits, so a conversion to a type
that is as wide comes in between unnoticed (`IntType.wrap_wrap`).
-/

namespace QueryClause

/-! ### Integer types -/

namespace IntType

/-- The number of bits. -/
def width : IntType → Nat
  | int8 | uint8 => 8
  | int16 | uint16 => 16
  | int32 | uint32 => 32
  | int64 | uint64 => 64

/-- Whether there are numbers below zero. -/
def isSigned : IntType → Bool
  | int8 | int16 | int32 | int64 => true
  | uint8 | uint16 | uint32 | uint64 => false

/-- The number is in the range of the type. -/
def Holds (t : IntType) (n : Int) : Prop :=
  if t.isSigned then -2 ^ (t.width - 1) ≤ n ∧ n < 2 ^ (t.width - 1) else 0 ≤ n ∧ n < 2 ^ t.width

instance (t : IntType) (n : Int) : Decidable (t.Holds n) :=
  inferInstanceAs (Decidable (if t.isSigned then _ else _))

/-- The number in the range of the type that has the same low bits. -/
def reduce (t : IntType) (n : Int) : Int :=
  if t.isSigned then n.bmod (2 ^ t.width) else n % 2 ^ t.width

variable {t s : IntType} {m n : Int64}

theorem holds_reduce (t : IntType) (n : Int) : t.Holds (t.reduce n) := by
  obtain ⟨k, hk⟩ : ∃ k, t.width = k + 1 := by cases t <;> exact ⟨_, rfl⟩
  have hpos : (0 : Int) < 2 ^ k := by positivity
  have hdouble : ((2 ^ (k + 1) : Nat) : Int) = 2 * 2 ^ k := by
    rw [Nat.pow_succ']
    push_cast
    rfl
  unfold Holds reduce
  split
  · have hlow := Int.le_bmod (x := n) (m := 2 ^ (k + 1)) (by positivity)
    have hhigh := Int.bmod_lt (x := n) (m := 2 ^ (k + 1)) (by positivity)
    rw [hk, Nat.add_sub_cancel]
    omega
  · exact ⟨Int.emod_nonneg _ (by positivity), Int.emod_lt_of_pos _ (by positivity)⟩

theorem reduce_modEq (t : IntType) (n : Int) : t.reduce n ≡ n [ZMOD 2 ^ t.width] := by
  unfold reduce
  split
  · have h := Int.bmod_emod (x := n) (m := 2 ^ t.width)
    rwa [Nat.cast_pow] at h
  · exact Int.mod_modEq n _

/-- Numbers with the same low bits are reduced to the same one. -/
theorem reduce_congr {a b : Int} (h : a ≡ b [ZMOD 2 ^ t.width]) : t.reduce a = t.reduce b := by
  unfold reduce
  split
  · have hlow : a % (2 ^ t.width : Nat) = b % (2 ^ t.width : Nat) := by
      rw [Nat.cast_pow]
      exact h
    rw [← Int.emod_bmod a, ← Int.emod_bmod b, hlow]
  · exact h

/-- The range of a type lies within 64 bits with a sign, except for unsigned integers of 64 bits. -/
theorem fits_of_holds (ht : t ≠ uint64) {a : Int} (h : t.Holds a) : Word64.fits a = true := by
  simp only [Word64.fits, Bool.and_eq_true, decide_eq_true_eq]
  cases t with
  | uint64 => exact absurd rfl ht
  | _ =>
    simp only [Holds, isSigned, width, if_true, Bool.false_eq_true, if_false] at h
    omega

theorem wrap_eq (ht : t ≠ uint64) (n : Int64) : t.wrap n = Int64.ofInt (t.reduce n.toInt) := by
  cases t with
  | uint64 => exact absurd rfl ht
  | int64 => exact (Int64.ofInt_toInt n).symm.trans (congrArg Int64.ofInt n.toInt_bmod.symm)
  | _ => rfl

theorem toInt_wrap (ht : t ≠ uint64) (n : Int64) : (t.wrap n).toInt = t.reduce n.toInt := by
  obtain ⟨hlow, hhigh⟩ := Word64.fits_iff.1 (fits_of_holds ht (holds_reduce t n.toInt))
  rw [wrap_eq ht, Int64.toInt_ofInt_of_le hlow hhigh]

theorem wrap_modEq (t : IntType) (n : Int64) : (t.wrap n).toInt ≡ n.toInt [ZMOD 2 ^ t.width] := by
  by_cases ht : t = uint64
  · subst ht
    rfl
  · rw [toInt_wrap ht]
    exact reduce_modEq t n.toInt

/-- What is kept is in the range of the type, or it is a number below zero that has stayed as it is
although the type has no such numbers. -/
theorem holds_wrap (t : IntType) (n : Int64) :
    t.Holds (t.wrap n).toInt ∨ t = uint64 ∧ (t.wrap n).toInt = n.toInt ∧ n.toInt < 0 := by
  by_cases ht : t = uint64
  · subst ht
    rcases Int.lt_or_le n.toInt 0 with hn | hn
    · exact .inr ⟨rfl, rfl, hn⟩
    · have hhigh := n.toInt_lt
      exact .inl ⟨hn, hhigh.trans (by decide)⟩
  · rw [toInt_wrap ht]
    exact .inl (holds_reduce t n.toInt)

/-- The low bits decide what is kept. -/
theorem wrap_congr (h : m.toInt ≡ n.toInt [ZMOD 2 ^ t.width]) : t.wrap m = t.wrap n := by
  by_cases ht : t = uint64
  · subst ht
    -- nothing is dropped, as for the integers with a sign
    change int64.wrap m = int64.wrap n
    rw [wrap_eq (t := int64) nofun, wrap_eq (t := int64) nofun, reduce_congr (t := int64) h]
  · rw [wrap_eq ht, wrap_eq ht, reduce_congr h]

/-- To keep more bits first makes no difference. -/
theorem wrap_wrap (h : t.width ≤ s.width) (n : Int64) : t.wrap (s.wrap n) = t.wrap n :=
  wrap_congr ((wrap_modEq s n).of_dvd (pow_dvd_pow 2 h))

end IntType

/-! ### Values -/

namespace Decimal

open Numeral

/-- Without its places, a decimal is its value toward zero. -/
theorem toInt64?_eq (d : Decimal) : d.toInt64? = Word64.ofInt? (truncate d.value) := by
  rw [truncate_value]
  rfl

end Decimal

namespace Value

open Numeral

/-- The number that a value stands for; a float is left out. -/
def number? (v : Value) : Option ℚ := (Numeric.ofValue? v).bind Numeric.rational?

theorem truncate_intCast (n : Int) : truncate (n : ℚ) = n := by
  simp [truncate]

theorem fits_toInt (n : Int64) : Word64.fits n.toInt = true :=
  Word64.fits_iff.2 ⟨n.le_toInt, n.toInt_lt⟩

variable {v : Value}

/-- A value is converted through the number that it stands for. -/
theorem integerPart_eq (hfloat : ∀ x, v ≠ float x) (target : HostType) :
    v.integerPart target = match v.number? with
      | none => .error (v.noConversion target)
      | some q =>
        if Word64.fits (truncate q) then .ok (Int64.ofInt (truncate q))
        else .error (.overflow "Convert") := by
  have hinteger (n : Int64) : (if Word64.fits (truncate (n.toInt : ℚ)) then
      Except.ok (Int64.ofInt (truncate (n.toInt : ℚ)))
      else .error (EvalError.overflow "Convert")) = Except.ok n := by
    rw [truncate_intCast, if_pos (fits_toInt n), Int64.ofInt_toInt]
  cases v with
  | float x => exact absurd rfl (hfloat x)
  | decimal d =>
    have hnumber : (decimal d).number? = some d.value := rfl
    rw [hnumber, integerPart, d.toInt64?_eq, Word64.ofInt?]
    dsimp only
    cases Word64.fits (truncate d.value) <;> rfl
  | int n => exact (hinteger n).symm
  | enum e n => exact (hinteger n).symm
  | char c => exact (hinteger _).symm
  | _ => rfl

/-- The low bits of what is left of a number are the integer that it is converted to. -/
theorem convert_eq {t : IntType} {type : HostType} (hnull : v ≠ null) (hfloat : ∀ x, v ≠ float x)
    (htype : type.underlying = .int t) :
    v.convert type = match v.number? with
      | none => .error (v.noConversion (.int t))
      | some q =>
        if Word64.fits (truncate q) then .ok (int (t.wrap (Int64.ofInt (truncate q))))
        else .error (.overflow "Convert") := by
  -- any value but null is taken to its integer part first
  have hmap : v.convert type = (v.integerPart (.int t)).map fun n => int (t.wrap n) := by
    rw [convert, htype]
    cases v with
    | null => exact absurd rfl hnull
    | _ => rfl
  rw [hmap, integerPart_eq hfloat]
  cases v.number? with
  | none => rfl
  | some q =>
    dsimp only
    split <;> rfl

theorem convert_int {t : IntType} {type : HostType} (htype : type.underlying = .int t)
    (n : Int64) : (int n).convert type = .ok (int (t.wrap n)) := by
  rw [convert, htype]
  rfl

/-- Two results are the same, or both say that the types do not suit each other. -/
inductive SameOutcome : Except EvalError Value → Except EvalError Value → Prop where
  | same (r : Except EvalError Value) : SameOutcome r r
  | mismatch (c d : TypeMismatch) :
      SameOutcome (.error (.typeMismatch c)) (.error (.typeMismatch d))

/-- A conversion to a type that is as wide comes in between unnoticed. -/
theorem sameOutcome_convert {s t : IntType} {wider type : HostType} (hnull : v ≠ null)
    (hfloat : ∀ x, v ≠ float x) (hwider : wider.underlying = .int s)
    (htype : type.underlying = .int t) (hwidth : t.width ≤ s.width) :
    SameOutcome (v.convert wider >>= fun w => w.convert type) (v.convert type) := by
  rw [convert_eq hnull hfloat hwider, convert_eq hnull hfloat htype]
  cases v.number? with
  | none => exact .mismatch _ _
  | some q =>
    dsimp only
    split
    · -- the low bits of the low bits
      rw [← IntType.wrap_wrap hwidth, ← convert_int htype]
      exact .same _
    · exact .same _

/-- **A number is converted to an integer by its low bits.**  A value that is neither null nor a
float has a conversion if and only if it stands for a number of which the integer part has 64 bits,
and this is then an integer that has the low bits of that part.  It is in the range of the type,
unless the type has 64 bits without a sign and the integer part, which stays as it is, lies below
zero.  Instead of the value its conversion to a type that is as wide can be converted. -/
theorem convert_integer {t : IntType} {type : HostType} (hnull : v ≠ null)
    (hfloat : ∀ x, v ≠ float x) (htype : type.underlying = .int t) :
    ((∃ w, v.convert type = .ok w) ↔
      ∃ q, v.number? = some q ∧ Word64.fits (truncate q) = true) ∧
    (∀ w, v.convert type = .ok w → ∃ (q : ℚ) (n : Int64), v.number? = some q ∧ w = int n ∧
      n.toInt ≡ truncate q [ZMOD 2 ^ t.width] ∧
      (t.Holds n.toInt ∨ t = .uint64 ∧ n.toInt = truncate q ∧ n.toInt < 0)) ∧
    ∀ (s : IntType) (wider : HostType), wider.underlying = .int s → t.width ≤ s.width →
      SameOutcome (v.convert wider >>= fun w => w.convert type) (v.convert type) := by
  refine ⟨?_, ?_, fun s wider hwider hwidth => sameOutcome_convert hnull hfloat hwider htype hwidth⟩
  · rw [convert_eq hnull hfloat htype]
    cases v.number? with
    | none => simp
    | some q => by_cases hfits : Word64.fits (truncate q) = true <;> simp [hfits]
  · intro w hw
    rw [convert_eq hnull hfloat htype] at hw
    cases hq : v.number? with
    | none =>
      rw [hq] at hw
      cases hw
    | some q =>
      rw [hq] at hw
      dsimp only at hw
      split at hw
      · rename_i hfits
        cases hw
        obtain ⟨hlow, hhigh⟩ := Word64.fits_iff.1 hfits
        -- the integer part has 64 bits, so as a word it is still itself
        have hwhole : (Int64.ofInt (truncate q)).toInt = truncate q :=
          Int64.toInt_ofInt_of_le hlow hhigh
        have hbits := IntType.wrap_modEq t (Int64.ofInt (truncate q))
        have hrange := IntType.holds_wrap t (Int64.ofInt (truncate q))
        rw [hwhole] at hbits hrange
        refine ⟨q, _, rfl, rfl, hbits, hrange.imp_right ?_⟩
        rintro ⟨ht, hstay, hneg⟩
        exact ⟨ht, hstay, hstay.symm ▸ hneg⟩
      · cases hw

theorem convert_integer_fraction :
    let v : Value := .decimal ⟨true, 3007, 1, by decide, by decide⟩
    let type : HostType := .nullable (.int .uint8)
    v ≠ null ∧ (∀ x, v ≠ float x) ∧ type.underlying = .int .uint8 ∧
    v.convert type = .ok (int 212) ∧
    (∃ q : ℚ, v.number? = some q ∧ (212 : Int) ≡ truncate q [ZMOD 2 ^ 8]) ∧
    IntType.uint8.Holds 212 ∧
    SameOutcome (v.convert (.int .int16) >>= fun w => w.convert type) (v.convert type) := by
  intro v type
  have hnull : v ≠ null := nofun
  have hfloat : ∀ x, v ≠ float x := nofun
  have htype : type.underlying = .int .uint8 := rfl
  have hconvert : v.convert type = .ok (int 212) := rfl
  obtain ⟨-, hresult, hwider⟩ := convert_integer hnull hfloat htype
  obtain ⟨q, n, hnumber, hn, hbits, hrange⟩ := hresult _ hconvert
  cases hn
  exact ⟨hnull, hfloat, htype, hconvert, ⟨q, hnumber, hbits⟩, hrange.resolve_right nofun,
    hwider .int16 (.int .int16) rfl (by decide)⟩

/-- A number below zero is no unsigned integer, and it is left as it is. -/
theorem not_convert_integer :
    (int (-1)).convert (.int .uint64) = .ok (int (-1)) ∧
    ¬ IntType.uint64.Holds (-1 : Int64).toInt :=
  ⟨rfl, by decide⟩

end Value

end QueryClause
