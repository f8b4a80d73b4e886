import QueryClause.Number.Power
import QueryClause.Proofs.Calendar.DateTime

/-!
# Shifts by months

A date is shifted by months if its month is so many months later and its day of the month is the
same, or the last one of a month that is too short for it (`Date.IsShifted`).  There is at most one
such date, and it is the one that is found (`Date.addMonths?_eq_some_iff`); where none is found the
calendar has none, as happens for all counts that need more than 31 bits
(`Date.not_isShifted_of_le`).
-/

namespace QueryClause

open Calendar

namespace Date

variable {d e : Date} {n : Int}

/-- `e` is `d` shifted by so many months. -/
structure IsShifted (d e : Date) (n : Int) : Prop where
  months : 12 * e.civil.year + e.civil.month = 12 * d.civil.year + d.civil.month + n
  day : e.civil.day = min d.civil.day (monthLength (isLeap e.civil.year) e.civil.month)

theorem addMonths?_eq_some_iff : d.addMonths? n = some e ↔ d.IsShifted e n := by
  have hmonth := e.month_day_bounds.1
  rw [addMonths?, ofCivil?_eq_some_iff]
  rcases hcivil : e.civil with ⟨year, month, day⟩
  rw [hcivil] at hmonth
  dsimp only at hmonth ⊢
  rw [Civil.mk.injEq]
  constructor
  · rintro ⟨hyear, hmonth', hday⟩
    refine ⟨?_, ?_⟩
    · rw [hcivil]
      dsimp only
      omega
    · rw [hcivil, hday, hyear, hmonth']
  · intro h
    have hmonths := h.months
    have hday := h.day
    rw [hcivil] at hmonths hday
    dsimp only at hmonths hday
    have hyear : year = (d.civil.year * 12 + d.civil.month - 1 + n) / 12 := by omega
    have hmonth' : month = ((d.civil.year * 12 + d.civil.month - 1 + n) % 12).toNat + 1 := by omega
    exact ⟨hyear, hmonth', by rw [← hyear, ← hmonth', hday]⟩

theorem isShifted_zero (d : Date) : d.IsShifted d 0 where
  months := (Int.add_zero _).symm
  day := by
    have hcivil := isCivil_civilOf d.number
    rw [isCivil, Bool.and_eq_true, decide_eq_true_eq, decide_eq_true_eq] at hcivil
    exact (min_eq_left hcivil.2).symm

/-- A date is shifted by one number of months. -/
theorem IsShifted.months_inj {m : Int} (h : d.IsShifted e m) : d.IsShifted e n ↔ m = n := by
  constructor
  · intro h'
    have := h.months
    have := h'.months
    omega
  · rintro rfl
    exact h

/-- The calendar has fewer than `2 ^ 31` months. -/
theorem not_isShifted_of_le (h : twoTo 31 ≤ n.natAbs) : ¬ d.IsShifted e n := by
  intro hshift
  have hd := d.year_bounds
  have he := e.year_bounds
  have hd' := d.month_day_bounds.1
  have he' := e.month_day_bounds.1
  have hmonths := hshift.months
  have hword : twoTo 31 = 2147483648 := rfl
  omega

end Date

namespace DateTime

variable {t u : DateTime} {n : Int}

/-- `u` is `t` shifted by so many months, at the same time of day. -/
structure IsShifted (t u : DateTime) (n : Int) : Prop where
  date : t.date.IsShifted u.date n
  time : u.time = t.time

theorem addMonths?_eq_some_iff : t.addMonths? n = some u ↔ t.IsShifted u n := by
  rw [addMonths?, Option.map_eq_some_iff]
  constructor
  · rintro ⟨date, hdate, rfl⟩
    exact ⟨Date.addMonths?_eq_some_iff.1 hdate, rfl⟩
  · rintro ⟨hdate, htime⟩
    exact ⟨u.date, Date.addMonths?_eq_some_iff.2 hdate, by rw [← htime]⟩

theorem isShifted_zero (t : DateTime) : t.IsShifted t 0 := ⟨t.date.isShifted_zero, rfl⟩

theorem IsShifted.months_inj {m : Int} (h : t.IsShifted u m) : t.IsShifted u n ↔ m = n := by
  rw [← h.date.months_inj]
  exact ⟨IsShifted.date, fun hdate => ⟨hdate, h.time⟩⟩

theorem addMonths?_of_le (h : twoTo 31 ≤ n.natAbs) : t.addMonths? n = none := by
  rw [Option.eq_none_iff_forall_ne_some]
  intro u hu
  exact Date.not_isShifted_of_le h (addMonths?_eq_some_iff.1 hu).date

end DateTime

end QueryClause
