import PlanViewer.Time.Instant

/-!
# Preferences

A value under a name, with the instant at which it expires. From that instant on it counts as
absent.
-/

namespace PlanViewer

/-- A stored value and its expiry. -/
structure Preference where
  name : String
  value : String
  expires : Instant
  deriving DecidableEq

namespace Preference

/-- A value that is kept for so many days from now. -/
def keptFor (now : Instant) (name value : String) (days : Int64) : Preference :=
  ⟨name, value, now.expiry days⟩

/-- Whether the value counts as absent. -/
def isExpired (p : Preference) (now : Instant) : Bool :=
  decide (p.expires ≤ now)

/-- Whether the value can be read. -/
def isLive (p : Preference) (now : Instant) : Bool :=
  !p.isExpired now

theorem isLive_iff {p : Preference} {now : Instant} : p.isLive now = true ↔ now < p.expires := by
  simp [isLive, isExpired, Instant.not_le]

end Preference

end PlanViewer
