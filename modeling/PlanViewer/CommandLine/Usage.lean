import PlanViewer.CommandLine.Paint

/-!
# Usage errors

What can be wrong with the arguments of the command line, before anything is done.
-/

namespace PlanViewer.CommandLine

/-- What is wrong with the arguments. A label is how an argument is called in messages. -/
inductive UsageError where
  /-- Arguments that have to be given are not. -/
  | missing (labels : List String)
  /-- No argument can stand there. -/
  | unexpected (text : String)
  /-- There is no such command. -/
  | unknownCommand (text : String)
  /-- An argument does not take that value. -/
  | invalidValue (value label reason : String)
  /-- An argument is without its value. -/
  | valueRequired (label : String)
  /-- An argument is given twice. -/
  | repeated (label : String)
  /-- An argument has a value too many. -/
  | surplusValue (value label : String)
  deriving DecidableEq, Repr

namespace UsageError

/-- A text that is at fault. -/
def fault (text : String) : Piece := ⟨[.yellow], text⟩

/-- A text that stands for itself. -/
def word (text : String) : Piece := ⟨[.bold], text⟩

/-- A text that should have been there. -/
def wanted (text : String) : Piece := ⟨[.green], text⟩

/-- The wording of a usage error. -/
def pieces : UsageError → List Piece
  | .missing labels =>
    "the following required arguments were not provided:" ::
      labels.flatMap fun label => ["\n  ", wanted label]
  | .unexpected text => ["unexpected argument '", fault text, "' found"]
  | .unknownCommand text => ["unrecognized subcommand '", fault text, "'"]
  | .invalidValue value label reason =>
    ["invalid value '", fault value, "' for '", word label, "': ", reason]
  | .valueRequired label =>
    ["a value is required for '", fault label, "' but none was supplied"]
  | .repeated label => ["the argument '", fault label, "' cannot be used multiple times"]
  | .surplusValue value label =>
    ["unexpected value '", fault value, "' for '", word label, "' found; no more were expected"]

/-- How a notice starts. -/
def opening : List Piece := [⟨[.bold, .red], "error:"⟩, " "]

/-- How a notice ends. -/
def closing : List Piece := ["\n\nFor more information, try '", word "--help", "'.\n"]

/-- What is written about a usage error. -/
def notice (e : UsageError) : List Piece :=
  opening ++ e.pieces ++ closing

end UsageError

end PlanViewer.CommandLine
