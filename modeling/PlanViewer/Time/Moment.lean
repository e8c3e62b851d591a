import PlanViewer.Text.Decimal
import PlanViewer.Time.Calendar
import PlanViewer.Time.Instant

/-!
# Broken-down time

An instant as date and time of day in universal time, the way texts show it: a leap second is the
second 60 of its minute. The way back refuses fields that no clock and no calendar shows.
-/

namespace PlanViewer

/-- Date and time of day. -/
structure Moment where
  date : Date
  hour : Nat
  minute : Nat
  second : Nat
  nanos : Nat
  deriving DecidableEq, Repr

namespace Moment

/-- The number of the day that a second falls in. -/
def dayOf (seconds : Int) : Int :=
  seconds / Instant.secondsPerDay

/-- The fields of an instant in universal time. -/
def ofInstant (t : Instant) : Moment :=
  let clock := (t.seconds % Instant.secondsPerDay).toNat
  let leap := Instant.nanosPerSecond ≤ t.nanos
  { date := Date.ofDayNumber (dayOf t.seconds)
    hour := clock / 3600
    minute := clock / 60 % 60
    second := clock % 60 + if leap then 1 else 0
    nanos := t.nanos - if leap then Instant.nanosPerSecond else 0 }

/-- Whether a calendar and a clock show those fields. The second 60 may stand in any minute. -/
def isValid (m : Moment) : Bool :=
  m.date.isValid && decide (m.hour ≤ 23) && decide (m.minute ≤ 59) && decide (m.second ≤ 60) &&
    decide (m.nanos < Instant.nanosPerSecond)

/-- The instant of fields that a clock shows which runs `offset` seconds ahead of universal time.
Both the fields themselves and the instant have to be in range. -/
def toInstant? (m : Moment) (offset : Int) : Option Instant :=
  if m.isValid then
    let leap := m.second = 60
    let second := m.second - if leap then 1 else 0
    let nanos := m.nanos + if leap then Instant.nanosPerSecond else 0
    let shown := m.date.dayNumber * Instant.secondsPerDay +
      (m.hour * 3600 + m.minute * 60 + second : Nat)
    (Instant.ofParts? shown nanos).bind fun _ => Instant.ofParts? (shown - offset) nanos
  else none

/-- The text of a year: four digits for the years 0 to 9999, and for any other a sign and at least
four digits. -/
def yearText (year : Int) : List Char :=
  if 0 ≤ year ∧ year ≤ 9999 then Text.Decimal.fixed 4 year.toNat
  else
    (if year < 0 then '-' else '+') ::
      if year.natAbs ≤ 9999 then Text.Decimal.fixed 4 year.natAbs
      else Text.Decimal.digits year.natAbs

end Moment

end PlanViewer
