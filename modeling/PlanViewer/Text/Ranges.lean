/-!
# Character classes as ranges

A property of characters is written down as the closed ranges of code points that have it, in
increasing order. The tables of this library are lists of such ranges, and a character is in the
class when some range holds its code point.
-/

namespace PlanViewer.Text

/-- Closed ranges of code points. -/
abbrev Ranges := List (Nat × Nat)

/-- Whether some range holds the code point of `c`. -/
def Ranges.holds (ranges : Ranges) (c : Char) : Bool :=
  ranges.any fun r => decide (r.1 ≤ c.toNat) && decide (c.toNat ≤ r.2)

theorem Ranges.holds_iff {ranges : Ranges} {c : Char} :
    ranges.holds c = true ↔ ∃ r ∈ ranges, r.1 ≤ c.toNat ∧ c.toNat ≤ r.2 := by
  simp [Ranges.holds]

end PlanViewer.Text
