import QueryClause.Eval.Operate
import QueryClause.Proofs.Calendar.DateTime
import QueryClause.Proofs.Calendar.TimeSpan

/-!
# Arithmetic of instants and spans

An instant is moved by a span, and the difference of two instants is a span.

Outside of leap seconds a move is undone by the opposite one, but the difference of the two instants
is the span again only if it is not negative or is made of microseconds; otherwise it is a
microsecond too large (`BinaryOp.subtract_add_iff`).

For the same reason a difference may have the wrong sign: half a microsecond earlier is five ticks
later (`BinaryOp.not_differsInOrder`).  Differences have the sign of the order and are opposite to
each other if and only if the distance is mirrored, and no leap second runs into the next day
(`BinaryOp.differsInOrder_iff`).
-/

namespace QueryClause.BinaryOp

variable {op : BinaryOp} {t : DateTime} {s : TimeSpan} {v : Value}

theorem apply_add_span : add.apply (.dateTime t) (.timeSpan s) = shiftBy add t s := rfl

theorem apply_subtract_span :
    subtract.apply (.dateTime t) (.timeSpan s) = shiftBy subtract t s.reverse := rfl

theorem apply_subtract_instants (t u : DateTime) :
    subtract.apply (.dateTime t) (.dateTime u) = .ok (.timeSpan (TimeSpan.ofNanos (t.since u))) :=
  rfl

theorem shiftBy_eq_ok_iff :
    shiftBy op t s = .ok v ↔ ∃ u, t.shift? s.nanos = some u ∧ v = .dateTime u := by
  rw [shiftBy]
  cases t.shift? s.nanos with
  | none => simp [Numeric.orOverflow]
  | some u => simp [Numeric.orOverflow, eq_comm]

theorem lessThan_instants_iff {t u : DateTime} :
    lessThan.apply (.dateTime t) (.dateTime u) = .ok (.bool true) ↔ t.compare u = .lt := by
  simp [apply, applyOrder, Value.isNull, Value.compare?, accepts]

theorem greaterThan_instants_iff {t u : DateTime} :
    greaterThan.apply (.dateTime t) (.dateTime u) = .ok (.bool true) ↔ t.compare u = .gt := by
  simp [apply, applyOrder, Value.isNull, Value.compare?, accepts]

/-! ### There and back -/

/-- **A move is undone by the opposite move, and the difference is the span unless it is negative
and not made of microseconds.**  From an instant outside of leap seconds, the difference of the two
instants is the span if and only if the span is not negative or its ticks are tens; otherwise it is
ten ticks more.  The opposite move leads back, but for the smallest span, which has no opposite. -/
theorem subtract_add_iff (ht : t.time.isLeap = false)
    (h : add.apply (.dateTime t) (.timeSpan s) = .ok v) :
    (subtract.apply v (.dateTime t) = .ok (.timeSpan s) ↔
      0 ≤ s.ticks.toInt ∨ 10 ∣ s.ticks.toInt) ∧
    (¬ (0 ≤ s.ticks.toInt ∨ 10 ∣ s.ticks.toInt) →
      subtract.apply v (.dateTime t) = .ok (.timeSpan ⟨s.ticks + 10⟩)) ∧
    (s.ticks ≠ Int64.minValue → subtract.apply v (.timeSpan s) = .ok (.dateTime t)) := by
  obtain ⟨u, hshift, rfl⟩ := shiftBy_eq_ok_iff.1 h
  obtain ⟨hu, hinstant⟩ := (DateTime.shift?_eq_some_iff ht).1 hshift
  have hdistance : u.since t = s.nanos := by
    rw [DateTime.since_of_not_leap ht hu]
    omega
  have hdifference : subtract.apply (.dateTime u) (.dateTime t) =
      .ok (.timeSpan (if 0 ≤ s.ticks.toInt ∨ 10 ∣ s.ticks.toInt then s else ⟨s.ticks + 10⟩)) := by
    rw [apply_subtract_instants, hdistance, TimeSpan.ofNanos_nanos]
  refine ⟨?_, fun hs => by rw [hdifference, if_neg hs], fun hmin => ?_⟩
  · rw [hdifference]
    split <;> rename_i hs
    · simp [hs]
    · simp [hs, s.add_ten_ne]
  · rw [apply_subtract_span, shiftBy_eq_ok_iff]
    refine ⟨t, (DateTime.shift?_eq_some_iff hu).2 ⟨ht, ?_⟩, rfl⟩
    rw [TimeSpan.nanos_reverse hmin]
    omega

/-- The first moment of the year 2024. -/
def newYear : DateTime := ⟨⟨738885, by decide, by decide⟩, TimeOfDay.midnight⟩

/-- A microsecond and a half before it. -/
def beforeNewYear : DateTime :=
  ⟨⟨738884, by decide, by decide⟩,
    { TimeOfDay.last with nanos := 999998500, nanos_lt := .inl (by decide) }⟩

theorem subtract_add_iff_newYear :
    newYear.time.isLeap = false ∧
    add.apply (.dateTime newYear) (.timeSpan ⟨-15⟩) = .ok (.dateTime beforeNewYear) ∧
    (subtract.apply (.dateTime beforeNewYear) (.dateTime newYear) = .ok (.timeSpan ⟨-15⟩) ↔
      0 ≤ (-15 : Int64).toInt ∨ 10 ∣ (-15 : Int64).toInt) ∧
    (¬ (0 ≤ (-15 : Int64).toInt ∨ 10 ∣ (-15 : Int64).toInt) →
      subtract.apply (.dateTime beforeNewYear) (.dateTime newYear) = .ok (.timeSpan ⟨-15 + 10⟩)) ∧
    ((-15 : Int64) ≠ Int64.minValue →
      subtract.apply (.dateTime beforeNewYear) (.timeSpan ⟨-15⟩) = .ok (.dateTime newYear)) := by
  have hadd : add.apply (.dateTime newYear) (.timeSpan ⟨-15⟩) = .ok (.dateTime beforeNewYear) := by
    rw [apply_add_span, shiftBy_eq_ok_iff]
    exact ⟨_, by decide, rfl⟩
  exact ⟨by decide, hadd, subtract_add_iff (by decide) hadd⟩

/-- A microsecond and a half earlier is half a microsecond earlier. -/
theorem not_subtract_add :
    newYear.time.isLeap = false ∧
    add.apply (.dateTime newYear) (.timeSpan ⟨-15⟩) = .ok (.dateTime beforeNewYear) ∧
    subtract.apply (.dateTime beforeNewYear) (.dateTime newYear) = .ok (.timeSpan ⟨-5⟩) ∧
    ¬ subtract.apply (.dateTime beforeNewYear) (.dateTime newYear) = .ok (.timeSpan ⟨-15⟩) := by
  have hadd : add.apply (.dateTime newYear) (.timeSpan ⟨-15⟩) = .ok (.dateTime beforeNewYear) := by
    rw [apply_add_span, shiftBy_eq_ok_iff]
    exact ⟨_, by decide, rfl⟩
  have hspan : TimeSpan.ofNanos (beforeNewYear.since newYear) = ⟨-5⟩ := by decide
  refine ⟨by decide, hadd, ?_, ?_⟩
  · rw [apply_subtract_instants, hspan]
  · rw [apply_subtract_instants, hspan]
    simp

/-! ### Differences and order -/

/-- The differences of two instants, in one direction and in the other, have the sign of the order
of the instants and are opposite as far as 64 bits go. -/
structure DiffersInOrder (t u : DateTime) (n m : Int64) : Prop where
  later : 0 < n → greaterThan.apply (.dateTime t) (.dateTime u) = .ok (.bool true)
  earlier : n < 0 → lessThan.apply (.dateTime t) (.dateTime u) = .ok (.bool true)
  opposite : ∃ k : Int, n = Word64.clamp k ∧ m = Word64.clamp (-k)

/-- **Differences follow the order of instants if and only if the distance is mirrored and no leap
second runs into the next day.** -/
theorem differsInOrder_iff (t u : DateTime) :
    ∃ n m : Int64,
      subtract.apply (.dateTime t) (.dateTime u) = .ok (.timeSpan ⟨n⟩) ∧
      subtract.apply (.dateTime u) (.dateTime t) = .ok (.timeSpan ⟨m⟩) ∧
      (DiffersInOrder t u n m ↔
        TimeSpan.IsMirrored (t.since u) ∧
          (t.since u = 0 ∨ ¬ t.Overruns u ∧ ¬ u.Overruns t)) := by
  refine ⟨(TimeSpan.ofNanos (t.since u)).ticks, (TimeSpan.ofNanos (u.since t)).ticks,
    apply_subtract_instants t u, apply_subtract_instants u t, ?_⟩
  rw [← DateTime.since_follows_iff]
  constructor
  · rintro ⟨hlater, hearlier, hopposite⟩
    rw [DateTime.since_swap t u, TimeSpan.mirrored_iff] at hopposite
    obtain ⟨hpos, hneg⟩ := TimeSpan.sign_ticks_ofNanos hopposite
    rw [hpos, greaterThan_instants_iff] at hlater
    rw [hneg, lessThan_instants_iff] at hearlier
    exact ⟨hopposite, hlater, hearlier⟩
  · rintro ⟨hmirrored, hlater, hearlier⟩
    obtain ⟨hpos, hneg⟩ := TimeSpan.sign_ticks_ofNanos hmirrored
    refine ⟨?_, ?_, ?_⟩
    · rwa [hpos, greaterThan_instants_iff]
    · rwa [hneg, lessThan_instants_iff]
    · rw [DateTime.since_swap t u]
      exact (TimeSpan.mirrored_iff _).2 hmirrored

/-- Half a microsecond after the first moment of the year 2024. -/
def afterNewYear : DateTime :=
  { newYear with
    time := { TimeOfDay.midnight with nanos := 500, nanos_lt := .inl (by decide) } }

/-- Of two instants half a microsecond apart, each is half a microsecond after the other; and the
first of all instants is as far after the last as ticks reach. -/
theorem not_differsInOrder :
    lessThan.apply (.dateTime newYear) (.dateTime afterNewYear) = .ok (.bool true) ∧
    subtract.apply (.dateTime newYear) (.dateTime afterNewYear) = .ok (.timeSpan ⟨5⟩) ∧
    subtract.apply (.dateTime afterNewYear) (.dateTime newYear) = .ok (.timeSpan ⟨5⟩) ∧
    ¬ DiffersInOrder newYear afterNewYear 5 5 ∧
    lessThan.apply (.dateTime .first) (.dateTime .last) = .ok (.bool true) ∧
    subtract.apply (.dateTime .first) (.dateTime .last) =
      .ok (.timeSpan ⟨9223372036854775800⟩) := by
  have hspan : TimeSpan.ofNanos (newYear.since afterNewYear) = ⟨5⟩ := by decide
  have hback : TimeSpan.ofNanos (afterNewYear.since newYear) = ⟨5⟩ := by decide
  have hfar : TimeSpan.ofNanos (DateTime.first.since DateTime.last) = ⟨9223372036854775800⟩ := by
    decide
  have hlt : newYear.compare afterNewYear = .lt := by decide
  refine ⟨lessThan_instants_iff.2 hlt, ?_, ?_, ?_, lessThan_instants_iff.2 (by decide), ?_⟩
  · rw [apply_subtract_instants, hspan]
  · rw [apply_subtract_instants, hback]
  · intro h
    have hgt := greaterThan_instants_iff.1 (h.later (by decide))
    rw [hlt] at hgt
    cases hgt
  · rw [apply_subtract_instants, hfar]

end QueryClause.BinaryOp
