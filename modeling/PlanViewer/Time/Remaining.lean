import PlanViewer.Time.Instant

/-!
# Time left

How long something still lasts, in words: a whole number of the largest unit that fits, as in
`3 weeks left`. Below a second there is only `now`.
-/

namespace PlanViewer.Remaining

/-- The units, the largest first, with their lengths in seconds. A year is twelve months. -/
def units : List (String × Nat) :=
  [("year", 31536036), ("month", 2628003), ("week", 604800), ("day", 86400), ("hour", 3600),
   ("minute", 60), ("second", 1)]

/-- A number of units, in the plural unless it is one. -/
def counted (n : Nat) (unit : String) : String :=
  String.ofList (Nat.toDigits 10 n) ++ " " ++ unit ++ if n = 1 then "" else "s"

/-- A length of time in words. -/
def text (seconds : Nat) : String :=
  match units.find? fun u => decide (u.2 ≤ seconds) with
  | some (unit, length) => counted (seconds / length) unit ++ " left"
  | none => "now"

end PlanViewer.Remaining
