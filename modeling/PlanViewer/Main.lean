import PlanViewer.CommandLine.Run
import Std.Time.DateTime.Timestamp

/-!
# The program

The outer layer: it takes what a run needs from the system, leaves the run to the library, and
carries over to the system what the run has written and what it has changed on the disk.
-/

namespace PlanViewer.Program

open CommandLine

/-- The variables that a run may look at. -/
def variableNames : List String :=
  [Environment.folderVariable, "HOME", "XDG_DATA_HOME", "CLICOLOR", "CLICOLOR_FORCE", "NO_COLOR"]

/-- The text of a place. -/
def placeText (place : Place) : String :=
  "/" ++ String.intercalate "/" place

/-- The environment of the program. -/
def environment : IO Environment := do
  let assignments ← variableNames.filterMapM fun name => do
    return (← IO.getEnv name).map fun value => (name, value)
  let here := (← IO.currentDir).toString
  return ⟨assignments, Path.namesOf [] here, none, ← (← IO.getStdout).isTty⟩

/-- The time. -/
def clock : IO Instant := do
  let t ← Std.Time.Timestamp.now
  let nanos := t.toNanosecondsSinceUnixEpoch.val
  let perSecond : Int := Instant.nanosPerSecond
  return (Instant.ofParts? (nanos / perSecond) (nanos % perSecond).toNat).getD .earliest

/-- The disk with what stands at a place. -/
def note (disk : Disk) (place : Place) : IO Disk := do
  let path := (← IO.currentDir) / placeText place
  if ← path.isDir then return disk.put place .folder
  else if ← path.pathExists then return disk.put place (.file (← IO.FS.readBinFile path))
  else return disk

/-- The part of the disk that names lead through, from a place on. -/
def noteAlong (disk : Disk) (here : Place) : Place → IO Disk
  | [] => return disk
  | name :: rest =>
    if name = ".." then noteAlong disk here.dropLast rest
    else do noteAlong (← note disk (here ++ [name])) (here ++ [name]) rest

/-- The part of the disk that matters to a folder. -/
def surroundings (folder : Path) : IO Disk := do
  let disk ← noteAlong .empty [] (folder.child Settings.fileName).names
  noteAlong disk [] (folder.child PrefsFile.fileName).names

/-- The folder that arguments lead to, if they can be read. -/
def folder? (env : Environment) (arguments : List String) : Option Path :=
  match Invocation.read arguments with
  | .ok invocation => (env.folder invocation.folder).toOption
  | .error _ => none

/-- Carries over what has been put on the disk, the oldest first. -/
def carryOver (before after : Disk) : IO Unit := do
  for (place, entry) in after.entries.reverse do
    if before.node? place ≠ some entry then
      match entry with
      | .folder => IO.FS.createDir (placeText place)
      | .file bytes => IO.FS.writeBinFile (placeText place) bytes

/-- Runs the program, and gives its exit code. -/
def run (arguments : List String) : IO Nat := do
  let env ← environment
  let before ← ((folder? env arguments).map surroundings).getD (return .empty)
  let (outcome, after) := CommandLine.run env (← clock) arguments before
  carryOver before after
  IO.print outcome.output
  IO.eprint outcome.errors
  return outcome.code

end PlanViewer.Program

/-- The program. What the system itself refuses is reported as a failure of the request. -/
def main (arguments : List String) : IO UInt32 := do
  try
    return (← PlanViewer.Program.run arguments).toUInt32
  catch e =>
    IO.eprintln ("Error: IO error: " ++ toString e)
    return PlanViewer.CommandLine.failureCode.toUInt32
