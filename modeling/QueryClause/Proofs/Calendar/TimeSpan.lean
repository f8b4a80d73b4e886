import QueryClause.Calendar.TimeSpan
import Mathlib.Algebra.Order.Ring.Int

/-!
# Spans of a number of nanoseconds

`TimeSpan.ofNanos` takes the microseconds toward zero and adds the hundreds of nanoseconds above a
multiple of a thousand.  For a number that is not negative both parts go the same way, and the span
is the number of hundreds.  For a negative one the first part is too large already where there is a
rest, and the second is added on top, so the span is ten ticks too large.

So a span comes back from its nanoseconds if it is not negative or is made of microseconds
(`TimeSpan.ofNanos_nanos`), and two opposite numbers of nanoseconds become opposite spans if they
are made of microseconds (`TimeSpan.mirrored_iff`, which is exact at the ends of the range too).
-/

namespace QueryClause.TimeSpan

variable {n : Int}

theorem ext_toInt {s t : TimeSpan} (h : s.ticks.toInt = t.ticks.toInt) : s = t := by
  cases s
  cases t
  congr 1
  exact Int64.toInt_inj.1 h

theorem toInt_ticks_inj {s t : TimeSpan} : s.ticks.toInt = t.ticks.toInt ↔ s = t :=
  ⟨ext_toInt, fun h => by rw [h]⟩

/-! ### Ticks -/

theorem wholeMicros_of_nonneg (h : 0 ≤ n) :
    wholeMicros n = if n / 1000 < 9223372036854775808 then n / 1000 else 922337203685477580 := by
  simp only [wholeMicros, Word64.fits, Int.tdiv_eq_ediv_of_nonneg h, Bool.and_eq_true,
    decide_eq_true_eq]
  split <;> split <;> omega

/-- What does not fit is as large as if the number were positive. -/
theorem wholeMicros_neg (h : 0 ≤ n) :
    wholeMicros (-n) =
      if n / 1000 ≤ 9223372036854775808 then -(n / 1000) else 922337203685477580 := by
  simp only [wholeMicros, Word64.fits, Int.neg_tdiv, Int.tdiv_eq_ediv_of_nonneg h,
    Bool.and_eq_true, decide_eq_true_eq]
  split <;> split <;> omega

theorem toInt_ticks_ofNanos (n : Int) :
    (ofNanos n).ticks.toInt =
      max (-9223372036854775808) (min 9223372036854775807
        (max (-9223372036854775808) (min 9223372036854775807 (wholeMicros n * 10)) +
          n % 1000 / 100)) := by
  simp only [ofNanos, Word64.toInt_clamp]

theorem toInt_ticks_ofNanos_of_nonneg (h : 0 ≤ n) :
    (ofNanos n).ticks.toInt =
      min 9223372036854775807
        (if n / 1000 < 9223372036854775808 then n / 100
          else 9223372036854775800 + n % 1000 / 100) := by
  rw [toInt_ticks_ofNanos, wholeMicros_of_nonneg h]
  split <;> omega

theorem toInt_ticks_ofNanos_neg (h : 0 ≤ n) :
    (ofNanos (-n)).ticks.toInt =
      if n / 1000 ≤ 9223372036854775808 then
        max (-9223372036854775808) (-(n / 1000 * 10)) + -n % 1000 / 100
      else min 9223372036854775807 (9223372036854775800 + -n % 1000 / 100) := by
  rw [toInt_ticks_ofNanos, wholeMicros_neg h]
  split <;> omega

/-- A span comes back from its nanoseconds, unless it is negative and not made of microseconds. -/
theorem ofNanos_nanos (s : TimeSpan) :
    ofNanos s.nanos = if 0 ≤ s.ticks.toInt ∨ 10 ∣ s.ticks.toInt then s else ⟨s.ticks + 10⟩ := by
  have hle := s.ticks.le_toInt
  have hlt := s.ticks.toInt_lt
  apply ext_toInt
  by_cases hs : 0 ≤ s.ticks.toInt
  · rw [if_pos (.inl hs), nanos, toInt_ticks_ofNanos_of_nonneg (by omega)]
    split <;> omega
  · have hnanos : s.nanos = -(-s.ticks.toInt * 100) := by
      rw [nanos]
      omega
    rw [hnanos, toInt_ticks_ofNanos_neg (by omega), if_pos (by omega)]
    by_cases hwhole : 10 ∣ s.ticks.toInt
    · rw [if_pos (.inr hwhole)]
      omega
    · have hten : (s.ticks + 10).toInt = s.ticks.toInt + 10 := by
        rw [Int64.toInt_add, show (10 : Int64).toInt = 10 from rfl, Int.bmod_eq_of_le] <;> omega
      rw [if_neg (by omega), hten]
      omega

theorem add_ten_ne (s : TimeSpan) : (⟨s.ticks + 10⟩ : TimeSpan) ≠ s := by
  intro h
  have hticks : s.ticks + 10 = s.ticks := congrArg ticks h
  simp at hticks

theorem nanos_reverse {s : TimeSpan} (h : s.ticks ≠ Int64.minValue) :
    s.reverse.nanos = -s.nanos := by
  have hle := s.ticks.le_toInt
  have hlt := s.ticks.toInt_lt
  have hmin : s.ticks.toInt ≠ -9223372036854775808 := fun hs => h (Int64.toInt_inj.1 hs)
  rw [nanos, nanos, reverse, Word64.toInt_clamp]
  omega

/-! ### Opposite spans -/

/-- The number of nanoseconds is made of microseconds that have 63 bits; or its ticks are beyond the
range while its microseconds are not, and it is less than two hundred short of a microsecond. -/
def IsMirrored (n : Int) : Prop :=
  (n.natAbs % 1000 = 0 ∧ n.natAbs / 1000 < 9223372036854775808) ∨
    (800 < n.natAbs % 1000 ∧ 922337203685477581 ≤ n.natAbs / 1000 ∧
      n.natAbs / 1000 ≤ 9223372036854775808)

theorem mirrored_iff_of_nonneg (h : 0 ≤ n) :
    (∃ k : Int, (ofNanos n).ticks = Word64.clamp k ∧ (ofNanos (-n)).ticks = Word64.clamp (-k)) ↔
      IsMirrored n := by
  simp only [← Int64.toInt_inj, toInt_ticks_ofNanos_of_nonneg h, toInt_ticks_ofNanos_neg h,
    Word64.toInt_clamp, IsMirrored]
  constructor
  · rintro ⟨k, hk, hk'⟩
    split at hk <;> split at hk' <;> omega
  · intro hn
    -- beyond the range one span is its end, so the other one says which number they stand for
    refine ⟨if n % 1000 = 0 then n / 100 else 9223372036854775808 - -n % 1000 / 100, ?_⟩
    split <;> split <;> split <;> omega

/-- Two opposite numbers of nanoseconds become spans that are opposite up to the ends of the range,
if and only if they are mirrored. -/
theorem mirrored_iff (n : Int) :
    (∃ k : Int, (ofNanos n).ticks = Word64.clamp k ∧ (ofNanos (-n)).ticks = Word64.clamp (-k)) ↔
      IsMirrored n := by
  rcases Int.le_total 0 n with hn | hn
  · exact mirrored_iff_of_nonneg hn
  · have hneg := mirrored_iff_of_nonneg (n := -n) (by omega)
    rw [Int.neg_neg, IsMirrored, Int.natAbs_neg] at hneg
    refine Iff.trans ?_ hneg
    constructor
    · rintro ⟨k, hk, hk'⟩
      exact ⟨-k, hk', by rwa [Int.neg_neg]⟩
    · rintro ⟨k, hk, hk'⟩
      exact ⟨-k, hk', by rwa [Int.neg_neg]⟩

/-- What is mirrored becomes a span of its own sign. -/
theorem sign_ticks_ofNanos (h : IsMirrored n) :
    (0 < (ofNanos n).ticks ↔ 0 < n) ∧ ((ofNanos n).ticks < 0 ↔ n < 0) := by
  simp only [Int64.lt_iff_toInt_lt, Int64.toInt_zero]
  unfold IsMirrored at h
  rcases Int.le_total 0 n with hn | hn
  · rw [toInt_ticks_ofNanos_of_nonneg hn]
    split <;> omega
  · rw [← Int.neg_neg n, toInt_ticks_ofNanos_neg (by omega)]
    split <;> omega

end QueryClause.TimeSpan
