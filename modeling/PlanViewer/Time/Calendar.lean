/-!
# The calendar

Dates of the Gregorian calendar, carried on without a break in both directions, and their day
numbers: the day 1970-01-01 has the number 0. The year before the year 1 is the year 0.
-/

namespace PlanViewer

/-- A date: year, month from 1, day of the month from 1. -/
structure Date where
  year : Int
  month : Nat
  day : Nat
  deriving DecidableEq, Repr

namespace Date

/-- Whether a year has a 29th of February. -/
def isLeap (year : Int) : Bool :=
  decide (year % 4 = 0) && (decide (year % 100 ≠ 0) || decide (year % 400 = 0))

/-- The lengths of the months of a year. -/
def monthLengths (year : Int) : List Nat :=
  [31, if isLeap year then 29 else 28, 31, 30, 31, 30, 31, 31, 30, 31, 30, 31]

/-- The days from the start of the year 0 to the start of a year. -/
def daysBeforeYear (year : Int) : Int :=
  365 * year + (year + 3) / 4 - (year + 99) / 100 + (year + 399) / 400

/-- The days from the start of the year 0 to the start of 1970. -/
def epoch : Int := 719528

/-- Whether there is such a date. -/
def isValid (d : Date) : Bool :=
  decide (1 ≤ d.month ∧ d.month ≤ 12) && decide (1 ≤ d.day) &&
    decide (d.day ≤ (monthLengths d.year).getD (d.month - 1) 0)

/-- The days of a year before a month. -/
def daysBeforeMonth (year : Int) (month : Nat) : Nat :=
  ((monthLengths year).take (month - 1)).foldl (· + ·) 0

/-- The number of a date's day. -/
def dayNumber (d : Date) : Int :=
  daysBeforeYear d.year + daysBeforeMonth d.year d.month + d.day - 1 - epoch

/-- The year that a day falls in, the day counted from the start of the year 0. A year is 365.2425
days long on average, so the quotient is at most one year off. -/
def yearOfDay (day : Int) : Int :=
  let guess := day * 400 / 146097
  if daysBeforeYear (guess + 1) ≤ day then guess + 1
  else if day < daysBeforeYear guess then guess - 1
  else guess

/-- The month and the day of the month of a day of the year counted from 0, given the lengths of
the months that are left and the number of the first of them. -/
def monthOfDay : (lengths : List Nat) → (month day : Nat) → Nat × Nat
  | [], month, day => (month, day + 1)
  | length :: rest, month, day =>
    if day < length then (month, day + 1) else monthOfDay rest (month + 1) (day - length)

/-- The date of a day number. -/
def ofDayNumber (number : Int) : Date :=
  let day := number + epoch
  let year := yearOfDay day
  let found := monthOfDay (monthLengths year) 1 (day - daysBeforeYear year).toNat
  ⟨year, found.1, found.2⟩

/-- The day of the week of a day number, Sunday being 0. -/
def weekday (number : Int) : Nat :=
  ((number + 4) % 7).toNat

theorem daysBeforeYear_yearOfDay (day : Int) :
    daysBeforeYear (yearOfDay day) ≤ day ∧ day < daysBeforeYear (yearOfDay day + 1) := by
  unfold yearOfDay
  dsimp only
  split
  · unfold daysBeforeYear at *; omega
  · split
    · rw [Int.sub_add_cancel]; unfold daysBeforeYear at *; omega
    · omega

end Date

end PlanViewer
