import PlanViewer.Time.Moment

/-!
# Cookie dates

The text of an instant in a cookie assignment: `Sun, 04 Mar 2012 05:06:07 GMT`. Fractions of a
second are not shown.
-/

namespace PlanViewer.CookieDate

open Text.Decimal

/-- The names of the days of the week. -/
def dayNames : List String :=
  ["Sun", "Mon", "Tue", "Wed", "Thu", "Fri", "Sat"]

/-- The names of the months. -/
def monthNames : List String :=
  ["Jan", "Feb", "Mar", "Apr", "May", "Jun", "Jul", "Aug", "Sep", "Oct", "Nov", "Dec"]

/-- The text of an instant. -/
def text (t : Instant) : String :=
  let m := Moment.ofInstant t
  let two := fun n => String.ofList (fixed 2 n)
  dayNames.getD (Date.weekday (Moment.dayOf t.seconds)) "" ++ ", " ++ two m.date.day ++ " " ++
    monthNames.getD (m.date.month - 1) "" ++ " " ++
    String.ofList (Moment.yearText m.date.year) ++ " " ++
    two m.hour ++ ":" ++ two m.minute ++ ":" ++ two m.second ++ " GMT"

end PlanViewer.CookieDate
