import PlanViewer.CommandLine.Environment
import PlanViewer.CommandLine.Invocation
import PlanViewer.CommandLine.Screen
import PlanViewer.Text.ControlSequences

/-!
# Running a command line

A run takes the arguments, the environment, the time and the disk, and gives what is written, the
exit code and the disk after it. Arguments are read first; then the settings of the folder, so that
a settings file that cannot be read fails every request; then the request is carried out.
-/

namespace PlanViewer.CommandLine

open Text

/-- What a run leaves: its exit code and what it has written. -/
structure Outcome where
  code : Nat
  output : String
  errors : String
  deriving DecidableEq, Repr

/-- The exit code of a request that fails. -/
def failureCode : Nat := 1

/-- The exit code for wrong arguments. -/
def usageCode : Nat := 2

/-- The version of the program. -/
def versionLine : String :=
  Environment.programName ++ " 0.1.0"

/-- What is shown when help is asked for. -/
def helpLines : List String :=
  ["Plan viewer display preferences and custom-node matching",
   "",
   "Usage: planprefs [OPTIONS] [COMMAND]",
   "",
   "Commands:",
   "  get       Print a stored preference (cookie name or alias, e.g. custom)",
   "  set       Store a preference",
   "  delete    Remove a preference",
   "  list      List live preferences",
   "  show      Show resolved display preferences, writing first-read defaults",
   "  layout    Save the timeline layout",
   "  match     Check whether a node is a custom node (prints true or false)",
   "  patterns  Show the parsed custom-node patterns",
   "  controls  Print the first-load plan controls markup",
   "  config    Get or set configuration",
   "  help      Print this message or the help of the given subcommand(s)",
   "",
   "Options:",
   "      --dir <DIR>  Preference directory (defaults to $PLANPREFS_HOME, then the user data dir)",
   "  -v, --verbose    Verbose output",
   "  -h, --help       Print help",
   "  -V, --version    Print version"]

/-- What a report has to show, before its messages. -/
def reportLines (colored : Bool) (request : Request) (now : Instant) (r : Report) : List String :=
  match request with
  | .list => Screen.preferenceLines colored now r.preferences
  | .display => (r.display.map (Screen.displayLines colored)).getD []
  | .patterns => Screen.patternLines colored r.patterns
  | .settings _ => if r.messages.isEmpty then (r.settings.map Screen.settingsLines).getD [] else []
  | _ => []

/-- The lines of a report. -/
def linesOf (colored : Bool) (request : Request) (now : Instant) (r : Report) : List String :=
  reportLines colored request now r ++ r.messages.map (Screen.messageLine colored)

/-- Carries out a request in a session, and gives the lines to show. -/
def perform (colored : Bool) (now : Instant) (request : Request) :
    Step Session (List String) :=
  let reported := fun step => (linesOf colored request now) <$> step
  match request with
  | .get key => reported (Session.get now key)
  | .set key value days => reported (Session.set now key value days)
  | .delete key => reported (Session.delete now key)
  | .list => reported (Session.list now)
  | .display => reported (Session.display now)
  | .layout pixels height scale => reported (Session.saveLayout now pixels height scale)
  | .patterns => reported (Session.customPatterns now)
  | .settings request => reported (Session.configure request)
  | .matchNode candidates mode => do
    return [if ← Session.isCustomNode now candidates mode then "true" else "false"]
  | .controls banner => do
    let (markup, s) := (← getThe Session).onReady banner
    set s
    return markup.toList

/-- Opens a session in the folder of an invocation and carries out its request. -/
def runInvocation (env : Environment) (now : Instant) (invocation : Invocation) :
    Step Disk (List String) :=
  Step.ofOutcome fun disk =>
    let opened := do
      let folder ← env.folder invocation.folder
      Session.start ⟨.file folder, disk⟩ folder
    match opened with
    | .error e => (.error e, disk)
    | .ok s =>
      let (result, s) := (perform env.wantsColor now invocation.request).outcome s
      (result, s.store.disk)

/-- What is left when reading the arguments stops. A usage error is written with its colours, and
where these are not wanted nothing that acts on a terminal is left of it, not even what comes from
the arguments. -/
def outcomeOfStop (env : Environment) : Stop → Outcome
  | .help => ⟨0, Screen.ofLines helpLines, ""⟩
  | .version => ⟨0, Screen.ofLines [versionLine], ""⟩
  | .usage e =>
    let written := Piece.renderAll e.notice
    ⟨usageCode, "", if env.wantsUsageColor then written else ControlSequences.remove written⟩

/-- Runs a command line. -/
def run (env : Environment) (now : Instant) (arguments : List String) (disk : Disk) :
    Outcome × Disk :=
  match Invocation.read arguments with
  | .error stop => (outcomeOfStop env stop, disk)
  | .ok invocation =>
    match (runInvocation env now invocation).outcome disk with
    | (.ok lines, disk) => (⟨0, Screen.ofLines lines, ""⟩, disk)
    | (.error e, disk) => (⟨failureCode, "", Screen.ofLines ["Error: " ++ e.message]⟩, disk)

end PlanViewer.CommandLine
