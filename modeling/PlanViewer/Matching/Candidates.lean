import PlanViewer.Text.Occurs

/-!
# Candidates

A node of a plan is matched on three texts, usually its id, its label and its type.
-/

namespace PlanViewer

/-- The three texts a node is matched on. -/
structure Candidates where
  first : String
  second : String
  third : String
  deriving DecidableEq, Repr

namespace Candidates

/-- The candidates in order. -/
def toList (c : Candidates) : List String :=
  [c.first, c.second, c.third]

/-- The candidates of a list: missing ones are empty, and those after the third play no part. -/
def ofList (texts : List String) : Candidates where
  first := texts.getD 0 ""
  second := texts.getD 1 ""
  third := texts.getD 2 ""

/-- Whether some candidate is that text. -/
def anyEquals (c : Candidates) (text : String) : Bool :=
  c.toList.any fun candidate => decide (candidate = text)

/-- Whether that text stands in some candidate. -/
def anyContains (c : Candidates) (text : String) : Bool :=
  c.toList.any fun candidate => Text.occursIn text.toList candidate.toList

end Candidates

end PlanViewer
