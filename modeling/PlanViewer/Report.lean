import PlanViewer.DisplayPrefs
import PlanViewer.Matching.CustomNodes
import PlanViewer.Settings

/-!
# Reports

What an operation has to say: the data it was asked for, and messages of four levels.
-/

namespace PlanViewer

/-- How much a message matters. -/
inductive Level where
  | info
  | success
  | warning
  | error
  deriving DecidableEq, Repr

/-- A message. -/
structure Message where
  level : Level
  content : String
  deriving DecidableEq, Repr

/-- The result of an operation. -/
structure Report where
  preferences : List Preference := []
  display : Option DisplayPrefs := none
  patterns : List Pattern := []
  settings : Option Settings := none
  messages : List Message := []
  deriving DecidableEq

namespace Report

/-- The report with nothing in it. -/
def empty : Report := {}

/-- A report with one more message. -/
def say (r : Report) (level : Level) (content : String) : Report :=
  { r with messages := r.messages ++ [⟨level, content⟩] }

/-- Whether there is a message about an error. -/
def hasErrors (r : Report) : Bool :=
  r.messages.any fun m => decide (m.level = .error)

end Report

end PlanViewer
