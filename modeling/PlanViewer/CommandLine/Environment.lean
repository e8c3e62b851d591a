import PlanViewer.Error

/-!
# The environment

What the program finds around it when it starts: variables, the folder it works in, the home
folder of the user's account, and whether its output goes to a terminal. From these follow the
folder of the preferences and the use of colours.
-/

namespace PlanViewer.CommandLine

/-- What the program finds when it starts. -/
structure Environment where
  assignments : List (String × String)
  /-- The folder that relative paths start from. -/
  workingFolder : Place
  /-- The home folder of the user's account, if it is known. -/
  accountHome : Option String
  /-- Whether the output goes to a terminal. -/
  terminal : Bool
  deriving DecidableEq

namespace Environment

/-- The value of a variable. -/
def get? (env : Environment) (name : String) : Option String :=
  env.assignments.lookup name

/-- The value of a variable, unless it is empty. -/
def filled? (env : Environment) (name : String) : Option String :=
  (env.get? name).filter fun value => decide (value ≠ "")

/-! ## The folder of the preferences -/

/-- The variable that names the folder of the preferences. -/
def folderVariable : String := "PLANPREFS_HOME"

/-- The name of the program, and of its folder among the data of a user. -/
def programName : String := "planprefs"

/-- The folder for the data of the user. A variable counts only if its path starts at the top. -/
def dataFolder? (env : Environment) : Option Path :=
  let named := Path.ofText env.workingFolder
  let home := (env.filled? "HOME" <|> env.accountHome).map fun text =>
    ((named text).child ".local").child "share"
  match env.get? "XDG_DATA_HOME" with
  | some text => if text.toList.head? = some '/' then some (named text) else home
  | none => home

/-- The folder of the preferences: the one that is asked for, else the one that the variable
names, else a folder among the data of the user. -/
def folder (env : Environment) (asked : Option String) : Except PrefsError Path :=
  let given := (asked <|> env.filled? folderVariable).map (Path.ofText env.workingFolder)
  match given <|> env.dataFolder?.map (·.child programName) with
  | some path => .ok path
  | none => .error (.store "Could not determine a data directory")

/-! ## Colours -/

/-- Whether a variable is set to something else than zero. -/
def isRaised (env : Environment) (name : String) : Bool :=
  match env.get? name with
  | some value => decide (value ≠ "0")
  | none => false

/-- Whether the output is coloured: if that is forced; otherwise if nothing forbids it and the
output goes to a terminal. -/
def wantsColor (env : Environment) : Bool :=
  env.isRaised "CLICOLOR_FORCE" ||
    ((env.get? "NO_COLOR").isNone && decide (env.get? "CLICOLOR" ≠ some "0") && env.terminal)

/-- Whether usage errors are coloured. Here forbidding it counts more than forcing it. -/
def wantsUsageColor (env : Environment) : Bool :=
  (env.filled? "NO_COLOR").isNone &&
    ((env.filled? "CLICOLOR_FORCE").isSome ||
      (decide (env.get? "CLICOLOR" ≠ some "0") && env.terminal))

end Environment

end PlanViewer.CommandLine
