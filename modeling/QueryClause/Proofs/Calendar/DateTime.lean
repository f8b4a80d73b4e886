import QueryClause.Calendar.DateTime
import QueryClause.Proofs.Calendar.Date
import Mathlib.Order.Compare
import Mathlib.Tactic.Ring

/-!
# Instants on the line of nanoseconds

Outside of leap seconds, an instant is its place on the line (`DateTime.ofInstant?_eq_some_iff`), so
a shift is an addition (`DateTime.shift?_eq_some_iff`) and a distance a difference
(`DateTime.since_of_not_leap`).

With leap seconds the distance still has the sign of the order (`DateTime.since_neg_iff`), but for
one case: a leap second at the end of a day runs into the next day (`DateTime.Overruns`).
-/

namespace QueryClause

/-! ### Times of day -/

namespace TimeOfDay

/-- A time of day is its hour, minute, second and nanosecond. -/
theorem ofParts?_eq_some_iff {hour minute second nanos : Nat} {t : TimeOfDay} :
    ofParts? hour minute second nanos = some t ↔
      t.hour = hour ∧ t.minute = minute ∧ t.second = second ∧ t.nanos = nanos := by
  have hseconds := t.seconds_lt
  have hnanos := t.nanos_lt
  unfold ofParts?
  simp only [TimeOfDay.hour, TimeOfDay.minute, TimeOfDay.second]
  constructor
  · intro h
    split at h
    · cases h
      refine ⟨?_, ?_, ?_, rfl⟩ <;> dsimp only <;> omega
    · cases h
  · rintro ⟨rfl, rfl, rfl, rfl⟩
    rw [dif_pos (by omega)]
    obtain ⟨seconds, nanos, _, _⟩ := t
    congr 2
    dsimp only
    omega

theorem isLeap_iff {t : TimeOfDay} : t.isLeap = true ↔ 1000000000 ≤ t.nanos := by
  rw [isLeap, decide_eq_true_eq, nanosPerSecond]

theorem isLeap_eq_false_iff {t : TimeOfDay} : t.isLeap = false ↔ t.nanos < 1000000000 := by
  rw [← Bool.not_eq_true, isLeap_iff, not_le]

end TimeOfDay

namespace DateTime

variable {t u : DateTime} {n : Int}

/-! ### Shifts -/

theorem ofInstant?_eq_some_iff :
    ofInstant? n = some t ↔ t.time.isLeap = false ∧ t.instant = n := by
  have hseconds := t.time.seconds_lt
  rw [ofInstant?, Option.map_eq_some_iff, TimeOfDay.isLeap_eq_false_iff]
  simp only [instant, nanosPerDay, nanosPerSecond]
  constructor
  · rintro ⟨date, hdate, rfl⟩
    have hnumber := Date.number_of_ofNumber? hdate
    simp only [TimeOfDay.ofNanos]
    omega
  · rintro ⟨hnanos, rfl⟩
    obtain ⟨date, seconds, nanos, _, _⟩ := t
    dsimp only at *
    refine ⟨date, ?_, ?_⟩
    · rw [← Date.ofNumber?_number date]
      congr 1
      omega
    · simp only [TimeOfDay.ofNanos, DateTime.mk.injEq, true_and, TimeOfDay.mk.injEq]
      omega

theorem shift?_of_not_leap (ht : t.time.isLeap = false) (n : Int) :
    t.shift? n = ofInstant? (t.instant + n) := by
  have houtside : t.shiftInLeap? n = none := by
    rw [TimeOfDay.isLeap_eq_false_iff] at ht
    rw [shiftInLeap?, dif_neg (by omega)]
  simp [shift?, houtside, ht]

theorem shift?_eq_some_iff (ht : t.time.isLeap = false) :
    t.shift? n = some u ↔ u.time.isLeap = false ∧ u.instant = t.instant + n := by
  rw [shift?_of_not_leap ht, ofInstant?_eq_some_iff]

theorem since_of_not_leap (ht : t.time.isLeap = false) (hu : u.time.isLeap = false) :
    u.since t = u.instant - t.instant := by
  simp [since, ht, hu]

/-! ### Order -/

theorem compare_eq_lt_iff :
    t.compare u = .lt ↔ t.date.number < u.date.number ∨
      t.date.number = u.date.number ∧ (t.time.seconds < u.time.seconds ∨
        t.time.seconds = u.time.seconds ∧ t.time.nanos < u.time.nanos) := by
  simp [compare, TimeOfDay.compare, Ordering.then_eq_lt, compare_lt_iff_lt]

theorem compare_eq_gt_iff : t.compare u = .gt ↔ u.compare t = .lt := by
  rw [compare_eq_lt_iff]
  simp [compare, TimeOfDay.compare, Ordering.then_eq_gt, compare_gt_iff_gt,
    @eq_comm _ t.date.number, @eq_comm _ t.time.seconds]

/-- The distance in full, with the leap second that counts for it. -/
theorem since_eq (t u : DateTime) :
    t.since u = (t.date.number - u.date.number) * 86400000000000 +
      ((t.time.seconds : Int) - u.time.seconds) * 1000000000 + (t.time.nanos - u.time.nanos) +
      (if u.time.seconds < t.time.seconds ∧ 1000000000 ≤ u.time.nanos then 1000000000
        else if t.time.seconds < u.time.seconds ∧ 1000000000 ≤ t.time.nanos then -1000000000
        else 0) := by
  simp only [since, instant, nanosPerDay, nanosPerSecond, Bool.and_eq_true, decide_eq_true_eq,
    TimeOfDay.isLeap_iff]
  push_cast
  ring

theorem since_swap (t u : DateTime) : u.since t = -t.since u := by
  rw [since_eq, since_eq]
  split <;> split <;> omega

/-- A leap second at the end of the day of `t` still goes on when `u` has come on the next day. -/
def Overruns (t u : DateTime) : Prop :=
  u.date.number = t.date.number + 1 ∧ t.time.seconds = 86399 ∧ u.time.seconds = 0 ∧
    nanosPerSecond + u.time.nanos ≤ t.time.nanos

/-- The distance has the sign of the order, unless a leap second runs into the next day. -/
theorem since_neg_iff (h : ¬ t.Overruns u) (h' : ¬ u.Overruns t) :
    t.since u < 0 ↔ t.compare u = .lt := by
  have ht := t.time.seconds_lt
  have hu := u.time.seconds_lt
  have ht' := t.time.nanos_lt
  have hu' := u.time.nanos_lt
  rw [compare_eq_lt_iff, since_eq]
  simp only [Overruns, nanosPerSecond] at h h'
  split
  · omega
  · split <;> omega

theorem since_pos_iff (h : ¬ t.Overruns u) (h' : ¬ u.Overruns t) :
    0 < t.since u ↔ t.compare u = .gt := by
  rw [compare_eq_gt_iff, ← since_neg_iff h' h, since_swap u t]
  omega

/-- A leap second that runs into the next day is earlier and not behind. -/
theorem Overruns.spec (h : t.Overruns u) : t.compare u = .lt ∧ 0 ≤ t.since u := by
  obtain ⟨hdate, hseconds, hmidnight, hnanos⟩ := h
  rw [nanosPerSecond] at hnanos
  refine ⟨compare_eq_lt_iff.2 (.inl (by omega)), ?_⟩
  rw [since_eq]
  split
  · omega
  · split <;> omega

/-- When the sign of the distance is that of the order. -/
theorem since_follows_iff :
    (0 < t.since u → t.compare u = .gt) ∧ (t.since u < 0 → t.compare u = .lt) ↔
      t.since u = 0 ∨ ¬ t.Overruns u ∧ ¬ u.Overruns t := by
  -- an overrun puts the order against the sign, so only a distance of zero is left
  by_cases htu : t.Overruns u
  · obtain ⟨hlt, hle⟩ := htu.spec
    constructor
    · rintro ⟨hpos, -⟩
      have hnot : ¬ 0 < t.since u := fun h => by simp [hlt] at hpos; omega
      exact .inl (by omega)
    · rintro (hzero | ⟨hno, -⟩)
      · exact ⟨by omega, fun _ => hlt⟩
      · exact absurd htu hno
  · by_cases hut : u.Overruns t
    · obtain ⟨hlt, hle⟩ := hut.spec
      have hgt := compare_eq_gt_iff.2 hlt
      rw [since_swap t u] at hle
      constructor
      · rintro ⟨-, hneg⟩
        have hnot : ¬ t.since u < 0 := fun h => by simp [hgt] at hneg; omega
        exact .inl (by omega)
      · rintro (hzero | ⟨-, hno⟩)
        · exact ⟨fun _ => hgt, by omega⟩
        · exact absurd hut hno
    · exact ⟨fun _ => .inr ⟨htu, hut⟩,
        fun _ => ⟨(since_pos_iff htu hut).1, (since_neg_iff htu hut).1⟩⟩

end DateTime

end QueryClause
