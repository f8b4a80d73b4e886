import QueryClause.Calendar.Date
import Mathlib.Algebra.BigOperators.Group.List.Basic
import Mathlib.Algebra.Order.Ring.Int
import Mathlib.Data.List.GetD

/-!
# Dates and their civil form

A date is a number of days, and its civil form is found from that number.  The two name the same
thing: a date has a given civil form if and only if it is the date that is found for the form
(`Date.ofCivil?_eq_some_iff`), so no form belongs to two dates.

A year is left by its number of days alone (`Calendar.yearOf_eq`), and inside the year a day is a
place in one of the months, counted from the days before that month (`Calendar.isCivil_iff`).
-/

namespace QueryClause

namespace Calendar

/-! ### Years -/

theorem yearStart_mono {x y : Int} (h : x ≤ y) : yearStart x ≤ yearStart y := by
  simp only [yearStart]
  omega

/-- A day belongs to one year. -/
theorem yearOf_eq {d y : Int} (h : yearStart y ≤ d) (h' : d < yearStart (y + 1)) :
    yearOf d = y := by
  obtain ⟨hle, hlt⟩ := yearOf_bounds d
  by_contra hne
  rcases lt_or_gt_of_ne hne with hearlier | hlater
  · have := yearStart_mono (show yearOf d + 1 ≤ y by omega)
    omega
  · have := yearStart_mono (show y + 1 ≤ yearOf d by omega)
    omega

/-! ### Months -/

/-- A day of the year is split into the month that it lies in and a day of that month. -/
theorem splitMonths_sum_take_add {ls : List Nat} {k n : Nat} (hk : k < ls.length) (hn : n < ls[k])
    (first : Nat) : splitMonths first ls ((ls.take k).sum + n) = (first + k, n + 1) := by
  induction ls generalizing k first with
  | nil => simp at hk
  | cons l rest ih =>
    cases k with
    | zero =>
      have hfirst : n < l := by simpa using hn
      simp [splitMonths, hfirst]
    | succ k =>
      have hk' : k < rest.length := by simpa using hk
      have hn' : n < rest[k] := by simpa using hn
      have hsum : ((l :: rest).take (k + 1)).sum + n = l + ((rest.take k).sum + n) := by
        simp [Nat.add_assoc]
      have hbehind : ¬ l + ((rest.take k).sum + n) < l := by omega
      -- the first month is left behind, and the rest is split as a year that starts a month later
      rw [hsum, splitMonths, if_neg hbehind, Nat.add_sub_cancel_left, ih hk' hn']
      congr 1
      omega

/-- Each day of the year lies in one of the months. -/
theorem exists_eq_sum_take_add {ls : List Nat} {n : Nat} (h : n < ls.sum) :
    ∃ k, ∃ hk : k < ls.length, ∃ m < ls[k], n = (ls.take k).sum + m := by
  induction ls generalizing n with
  | nil => simp at h
  | cons l rest ih =>
    by_cases hfirst : n < l
    · exact ⟨0, by simp, n, by simpa using hfirst, by simp⟩
    · have hrest : n - l < rest.sum := by
        rw [List.sum_cons] at h
        omega
      obtain ⟨k, hk, m, hm, heq⟩ := ih hrest
      refine ⟨k + 1, by simpa using hk, m, by simpa using hm, ?_⟩
      rw [List.take_succ_cons, List.sum_cons]
      omega

/-- A year is as long as its months. -/
theorem yearStart_add_sum (y : Int) :
    yearStart y + ((monthLengths (isLeap y)).sum : Nat) = yearStart (y + 1) := by
  rw [yearStart_succ]
  cases isLeap y <;> rfl

/-- The days before a month and those of the month do not go beyond the year. -/
theorem sum_take_add_lt {ls : List Nat} {k n : Nat} (hk : k < ls.length) (hn : n < ls[k]) :
    (ls.take k).sum + n < ls.sum := by
  have hparts : (ls.take k).sum + (ls.drop k).sum = ls.sum := List.sum_take_add_sum_drop ls k
  rw [List.drop_eq_getElem_cons hk, List.sum_cons] at hparts
  omega

/-- A civil form is a place in one of the months of its year. -/
theorem isCivil_iff {y : Int} {month day : Nat} :
    isCivil ⟨y, month, day⟩ = true ↔
      ∃ k, ∃ hk : k < (monthLengths (isLeap y)).length, ∃ n < (monthLengths (isLeap y))[k],
        month = k + 1 ∧ day = n + 1 := by
  simp only [isCivil, monthLength, Bool.and_eq_true, decide_eq_true_eq]
  constructor
  · rintro ⟨hday, hlength⟩
    split at hlength
    · omega
    · by_cases hk : month - 1 < (monthLengths (isLeap y)).length
      · rw [List.getD_eq_getElem _ _ hk] at hlength
        exact ⟨month - 1, hk, day - 1, by omega, by omega, by omega⟩
      · rw [List.getD_eq_default _ _ (by omega)] at hlength
        omega
  · rintro ⟨k, hk, n, hn, rfl, rfl⟩
    rw [if_neg (Nat.succ_ne_zero k), Nat.add_sub_cancel, List.getD_eq_getElem _ _ hk]
    omega

theorem isCivil_bounds {c : Civil} (h : isCivil c = true) :
    (1 ≤ c.month ∧ c.month ≤ 12) ∧ 1 ≤ c.day ∧ c.day ≤ 31 := by
  obtain ⟨y, month, day⟩ := c
  obtain ⟨k, hk, n, hn, rfl, rfl⟩ := isCivil_iff.1 h
  have htwelve : (monthLengths (isLeap y)).length = 12 := rfl
  have hlongest : ∀ leap, ∀ l ∈ monthLengths leap, l ≤ 31 := by decide
  have hlength := hlongest _ _ (List.getElem_mem hk)
  dsimp only
  omega

theorem dayNumber_eq (y : Int) (k n : Nat) :
    dayNumber ⟨y, k + 1, n + 1⟩ =
      yearStart y + (((monthLengths (isLeap y)).take k).sum + n : Nat) := by
  simp only [dayNumber, monthStart, List.sum_eq_foldl, Nat.add_sub_cancel]
  omega

/-! ### Days -/

theorem civilOf_dayNumber {c : Civil} (h : isCivil c = true) : civilOf (dayNumber c) = c := by
  obtain ⟨y, month, day⟩ := c
  obtain ⟨k, hk, n, hn, rfl, rfl⟩ := isCivil_iff.1 h
  have hlt := sum_take_add_lt hk hn
  have hyear : yearOf (dayNumber ⟨y, k + 1, n + 1⟩) = y := by
    rw [dayNumber_eq]
    have hend := yearStart_add_sum y
    exact yearOf_eq (by omega) (by omega)
  have hplace : (dayNumber ⟨y, k + 1, n + 1⟩ - yearStart y).toNat =
      ((monthLengths (isLeap y)).take k).sum + n := by
    rw [dayNumber_eq]
    omega
  simp only [civilOf, hyear, hplace, splitMonths_sum_take_add hk hn]
  congr 1
  omega

/-- A day is a place in one of the months of its year. -/
theorem exists_civilOf (d : Int) :
    ∃ k, ∃ hk : k < (monthLengths (isLeap (yearOf d))).length,
      ∃ n < (monthLengths (isLeap (yearOf d)))[k],
        civilOf d = ⟨yearOf d, k + 1, n + 1⟩ ∧
        d = yearStart (yearOf d) + (((monthLengths (isLeap (yearOf d))).take k).sum + n : Nat) := by
  obtain ⟨hle, hlt⟩ := yearOf_bounds d
  have hinside : (d - yearStart (yearOf d)).toNat < (monthLengths (isLeap (yearOf d))).sum := by
    have hend := yearStart_add_sum (yearOf d)
    omega
  obtain ⟨k, hk, n, hn, hplace⟩ := exists_eq_sum_take_add hinside
  refine ⟨k, hk, n, hn, ?_, by omega⟩
  simp only [civilOf, hplace, splitMonths_sum_take_add hk hn]
  congr 1
  omega

theorem isCivil_civilOf (d : Int) : isCivil (civilOf d) = true := by
  obtain ⟨k, hk, n, hn, hcivil, -⟩ := exists_civilOf d
  rw [hcivil]
  exact isCivil_iff.2 ⟨k, hk, n, hn, rfl, rfl⟩

theorem dayNumber_civilOf (d : Int) : dayNumber (civilOf d) = d := by
  obtain ⟨k, hk, n, hn, hcivil, hplace⟩ := exists_civilOf d
  rw [hcivil, dayNumber_eq]
  exact hplace.symm

end Calendar

namespace Date

open Calendar

theorem ofNumber?_number (d : Date) : ofNumber? d.number = some d :=
  dif_pos ⟨d.le_number, d.number_lt⟩

theorem number_of_ofNumber? {n : Int} {d : Date} (h : ofNumber? n = some d) : d.number = n := by
  unfold ofNumber? at h
  split at h
  · cases h
    rfl
  · cases h

/-- **A civil form belongs to one date.**  A date is found for a civil form if and only if the form
is its own. -/
theorem ofCivil?_eq_some_iff {c : Civil} {d : Date} : ofCivil? c = some d ↔ d.civil = c := by
  constructor
  · intro h
    unfold ofCivil? at h
    split at h
    · rename_i hcivil
      rw [civil, number_of_ofNumber? h, civilOf_dayNumber hcivil]
    · cases h
  · rintro rfl
    rw [ofCivil?, civil, if_pos (isCivil_civilOf d.number), dayNumber_civilOf, ofNumber?_number]

theorem civil_year (d : Date) : d.civil.year = yearOf d.number := rfl

theorem year_bounds (d : Date) : -262143 ≤ d.civil.year ∧ d.civil.year ≤ 262142 := by
  obtain ⟨hle, hlt⟩ := yearOf_bounds d.number
  have hfirst := d.le_number
  have hlast := d.number_lt
  rw [civil_year]
  constructor
  · by_contra hearlier
    have := yearStart_mono (show yearOf d.number + 1 ≤ -262143 by omega)
    omega
  · by_contra hlater
    have := yearStart_mono (show 262143 ≤ yearOf d.number by omega)
    omega

theorem month_day_bounds (d : Date) :
    (1 ≤ d.civil.month ∧ d.civil.month ≤ 12) ∧ 1 ≤ d.civil.day ∧ d.civil.day ≤ 31 :=
  isCivil_bounds (isCivil_civilOf d.number)

end Date

end QueryClause
