import PlanViewer.Text.Blank

/-!
# Match modes

How the outcomes of single tests combine into the answer for a node. In `overwrite` mode the last
outcome stands; in `accumulate` mode one matching pattern is enough, and a wildcard pattern needs
all of its fragments.
-/

namespace PlanViewer

/-- How outcomes combine. -/
inductive MatchMode where
  | overwrite
  | accumulate
  deriving DecidableEq, Repr

namespace MatchMode

/-- The mode in force where nothing else is said. -/
def standard : MatchMode := .overwrite

/-- All modes. -/
def all : List MatchMode := [.overwrite, .accumulate]

/-- The name of a mode. -/
def name : MatchMode → String
  | .overwrite => "overwrite"
  | .accumulate => "accumulate"

/-- The mode of exactly that name. -/
def ofName? (s : String) : Option MatchMode :=
  all.find? fun m => decide (m.name = s)

/-- A name as it is compared: without white space around it, ASCII letters in lower case. -/
def normalized (s : String) : String :=
  String.ofList ((Text.trim s.toList).map Char.toLower)

/-- Reads the name of a mode. A text that is none is handed back as it was compared. -/
def read (s : String) : Except String MatchMode :=
  match ofName? (normalized s) with
  | some m => .ok m
  | none => .error (normalized s)

/-- The wording for a text that is no mode, given as it was compared. -/
def unknownMessage (name : String) : String :=
  "Unknown match mode: " ++ name ++ " (expected overwrite or accumulate)"

@[simp]
theorem ofName?_name (m : MatchMode) : ofName? m.name = some m := by
  cases m <;> decide

end MatchMode

end PlanViewer
