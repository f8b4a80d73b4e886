/-!
# Calendar dates

A `Date` is a day of the proleptic Gregorian calendar, held as the number of days since the first
day of year 1, so that dates are ordered and shifted as integers.  `Date.civil` reads off year,
month and day, and `Date.ofCivil?` finds the date with given ones.  Years run from -262143 to
262142; year 0 precedes year 1.
-/

namespace QueryClause

/-- Year, month and day of the month, the latter two counted from one. -/
structure Civil where
  year : Int
  month : Nat
  day : Nat
  deriving DecidableEq, Repr

namespace Calendar

/-- Whether the year has a 29th of February. -/
def isLeap (y : Int) : Bool := y % 4 == 0 && (y % 100 != 0 || y % 400 == 0)

/-- The number of days before the first day of the year, counted from year 1. -/
def yearStart (y : Int) : Int :=
  365 * (y - 1) + (y - 1) / 4 - (y - 1) / 100 + (y - 1) / 400

/-- The year that holds the day: an estimate by the mean length of a year, corrected by one. -/
def yearOf (d : Int) : Int :=
  let y := d * 400 / 146097 + 1
  if d < yearStart y then y - 1 else if yearStart (y + 1) ≤ d then y + 1 else y

/-- The lengths of the months of a year. -/
def monthLengths (leap : Bool) : List Nat :=
  [31, if leap then 29 else 28, 31, 30, 31, 30, 31, 31, 30, 31, 30, 31]

/-- The length of a month, zero if there is no such month. -/
def monthLength (leap : Bool) (month : Nat) : Nat :=
  if month = 0 then 0 else (monthLengths leap).getD (month - 1) 0

/-- The number of days of the year before a month. -/
def monthStart (leap : Bool) (month : Nat) : Nat :=
  ((monthLengths leap).take (month - 1)).foldl (· + ·) 0

/-- Find month and day of the month from a day of the year counted from zero; `month` is the first
of the months whose lengths are given. -/
def splitMonths (month : Nat) : List Nat → Nat → Nat × Nat
  | [], n => (month, n + 1)
  | l :: rest, n => if n < l then (month, n + 1) else splitMonths (month + 1) rest (n - l)

/-- The day with the given number in civil form. -/
def civilOf (d : Int) : Civil :=
  let y := yearOf d
  let (month, day) := splitMonths 1 (monthLengths (isLeap y)) (d - yearStart y).toNat
  ⟨y, month, day⟩

/-- The number of the day with the given civil form. -/
def dayNumber (c : Civil) : Int :=
  yearStart c.year + monthStart (isLeap c.year) c.month + c.day - 1

/-- The year has the month and the month has the day. -/
def isCivil (c : Civil) : Bool := 1 ≤ c.day && c.day ≤ monthLength (isLeap c.year) c.month

/-- The day lies in the year found for it. -/
theorem yearOf_bounds (d : Int) :
    yearStart (yearOf d) ≤ d ∧ d < yearStart (yearOf d + 1) := by
  unfold yearOf
  dsimp only
  split <;> rename_i below
  · simp only [yearStart] at *
    omega
  · split <;> rename_i above <;> simp only [yearStart] at * <;> omega

/-- A year is followed by the next one after 365 days, or 366 in a leap year. -/
theorem yearStart_succ (y : Int) :
    yearStart (y + 1) = yearStart y + (if isLeap y then 366 else 365) := by
  have leap_iff : isLeap y = true ↔ y % 4 = 0 ∧ (y % 100 ≠ 0 ∨ y % 400 = 0) := by simp [isLeap]
  simp only [yearStart]
  split <;> rename_i h <;> rw [leap_iff] at h <;> omega

end Calendar

open Calendar

/-- A day between the first of year -262143 and the last of year 262142. -/
structure Date where
  /-- Days since the first day of year 1. -/
  number : Int
  le_number : yearStart (-262143) ≤ number
  number_lt : number < yearStart 262143
  deriving DecidableEq, Repr

namespace Date

/-- The date with the given day number, if it is in range. -/
def ofNumber? (n : Int) : Option Date :=
  if h : yearStart (-262143) ≤ n ∧ n < yearStart 262143 then some ⟨n, h.1, h.2⟩ else none

/-- The earliest date. -/
def first : Date := ⟨yearStart (-262143), by decide, by decide⟩

/-- The latest date. -/
def last : Date := ⟨yearStart 262143 - 1, by decide, by decide⟩

instance : Inhabited Date := ⟨first⟩

/-- Year, month and day. -/
def civil (d : Date) : Civil := civilOf d.number

/-- The day of the year, counted from one. -/
def ordinal (d : Date) : Nat := (d.number - yearStart d.civil.year).toNat + 1

/-- The date with the given year, month and day, if there is one in range. -/
def ofCivil? (c : Civil) : Option Date := if isCivil c then ofNumber? (dayNumber c) else none

/-- The date that many months later, with the last day of the month where it is too short. -/
def addMonths? (d : Date) (n : Int) : Option Date :=
  let c := d.civil
  let months := c.year * 12 + c.month - 1 + n
  let year := months / 12
  let month := (months % 12).toNat + 1
  ofCivil? ⟨year, month, min c.day (monthLength (isLeap year) month)⟩

end Date

end QueryClause
