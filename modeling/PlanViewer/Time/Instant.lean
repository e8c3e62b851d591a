/-!
# Instants

A point in time: whole seconds since the start of 1970 in universal time, and nanoseconds within
the second. A leap second is the last second of a minute with a billion nanoseconds or more, so
instants are ordered by seconds and then by nanoseconds.

Instants reach from the first moment of the year -262143 to the last of the year 262142. Days are
counted in milliseconds of 64 bits and added exactly. A number of days that cannot be counted, and a
sum beyond the range, stay at the end of the range.
-/

namespace PlanViewer

namespace Instant

/-- The second at which the range of instants starts. -/
def minSeconds : Int := -8334601228800

/-- The last second of the range of instants. -/
def maxSeconds : Int := 8210266876799

/-- The nanoseconds of a second. -/
def nanosPerSecond : Nat := 1000000000

end Instant

/-- A point in time. -/
structure Instant where
  seconds : Int
  nanos : Nat
  inRange : Instant.minSeconds ≤ seconds ∧ seconds ≤ Instant.maxSeconds
  inSecond : nanos < Instant.nanosPerSecond ∨
    nanos < 2 * Instant.nanosPerSecond ∧ seconds % 60 = 59
  deriving DecidableEq

namespace Instant

/-- The instant of those seconds and nanoseconds, if there is one. -/
def ofParts? (seconds : Int) (nanos : Nat) : Option Instant :=
  if range : minSeconds ≤ seconds ∧ seconds ≤ maxSeconds then
    if second : nanos < nanosPerSecond ∨ nanos < 2 * nanosPerSecond ∧ seconds % 60 = 59 then
      some ⟨seconds, nanos, range, second⟩
    else none
  else none

/-- The first instant. -/
def earliest : Instant :=
  ⟨minSeconds, 0, by decide, by decide⟩

/-- The last instant. -/
def latest : Instant :=
  ⟨maxSeconds, nanosPerSecond - 1, by decide, by decide⟩

instance : LE Instant :=
  ⟨fun a b => a.seconds < b.seconds ∨ a.seconds = b.seconds ∧ a.nanos ≤ b.nanos⟩

instance : LT Instant :=
  ⟨fun a b => a.seconds < b.seconds ∨ a.seconds = b.seconds ∧ a.nanos < b.nanos⟩

theorem le_def {a b : Instant} :
    a ≤ b ↔ a.seconds < b.seconds ∨ a.seconds = b.seconds ∧ a.nanos ≤ b.nanos :=
  Iff.rfl

theorem lt_def {a b : Instant} :
    a < b ↔ a.seconds < b.seconds ∨ a.seconds = b.seconds ∧ a.nanos < b.nanos :=
  Iff.rfl

instance (a b : Instant) : Decidable (a ≤ b) :=
  decidable_of_iff _ le_def.symm

instance (a b : Instant) : Decidable (a < b) :=
  decidable_of_iff _ lt_def.symm

theorem not_le {a b : Instant} : ¬ a ≤ b ↔ b < a := by
  rw [le_def, lt_def]; omega

/-- The instant so many seconds later, if it is in range. Going on from a leap second counts from
the second it extends, going back from it counts from the second after it. -/
def addSeconds? (t : Instant) (seconds : Int) : Option Instant :=
  if t.nanos < nanosPerSecond then ofParts? (t.seconds + seconds) t.nanos
  else if 0 < seconds then ofParts? (t.seconds + seconds) (t.nanos - nanosPerSecond)
  else if seconds < 0 then ofParts? (t.seconds + 1 + seconds) (t.nanos - nanosPerSecond)
  else some t

/-- The seconds of a day. -/
def secondsPerDay : Int := 86400

/-- The milliseconds of a second. -/
def millisPerSecond : Int := 1000

/-- The most milliseconds that are counted, forwards and backwards. -/
def mostMillis : Int := Int64.maxValue.toInt

/-- The seconds of so many days, unless they are more milliseconds than are counted. -/
def daySeconds? (days : Int64) : Option Int :=
  let seconds := days.toInt * secondsPerDay
  if -mostMillis ≤ seconds * millisPerSecond ∧ seconds * millisPerSecond ≤ mostMillis then
    some seconds
  else none

/-- The instant so many days from now. Where the days cannot be counted or lead beyond the range it
is the last instant for a positive number of days and the first one otherwise. -/
def expiry (now : Instant) (days : Int64) : Instant :=
  ((daySeconds? days).bind now.addSeconds?).getD (if 0 < days.toInt then latest else earliest)

theorem ofParts?_eq_none {seconds : Int} {nanos : Nat}
    (h : ¬ (minSeconds ≤ seconds ∧ seconds ≤ maxSeconds)) : ofParts? seconds nanos = none := by
  rw [ofParts?, dif_neg h]

theorem ofParts?_self (t : Instant) : ofParts? t.seconds t.nanos = some t := by
  rw [ofParts?, dif_pos t.inRange, dif_pos t.inSecond]

/-- From no instant to any other it is longer than the whole range. -/
theorem addSeconds?_eq_none {t : Instant} {seconds : Int}
    (h : seconds < minSeconds - maxSeconds - 1 ∨ maxSeconds - minSeconds < seconds) :
    t.addSeconds? seconds = none := by
  have hrange := t.inRange
  have horder : minSeconds ≤ maxSeconds := by decide
  unfold addSeconds?
  split
  · exact ofParts?_eq_none (by omega)
  · split
    · exact ofParts?_eq_none (by omega)
    · split
      · exact ofParts?_eq_none (by omega)
      · omega

/-- **Days that cannot be counted lead beyond the range from everywhere**, so that counting them
first makes no difference. -/
theorem expiry_eq (now : Instant) (days : Int64) :
    now.expiry days =
      (now.addSeconds? (days.toInt * secondsPerDay)).getD
        (if 0 < days.toInt then latest else earliest) := by
  unfold expiry daySeconds?
  dsimp only
  split
  · rfl
  · next hmillis =>
    have hmost : mostMillis = 9223372036854775807 := rfl
    rw [addSeconds?_eq_none]
    · rfl
    · unfold millisPerSecond at hmillis
      unfold minSeconds maxSeconds
      omega

/-- The whole seconds from one instant to a later one, and zero if it is not later. -/
def secondsUntil (now t : Instant) : Nat :=
  (((t.seconds - now.seconds) * nanosPerSecond + t.nanos - now.nanos) / nanosPerSecond).toNat

end Instant

end PlanViewer
