import PlanViewer.Error

/-!
# Values kept in a file

A value is kept as the text of one file of a folder. It is loaded from the whole text, and where
there is no such file some value is taken in its place. Saving writes the whole text.
-/

namespace PlanViewer.TextFile

/-- The value in the file of that name in a folder, or the one that stands for a missing file. -/
def load {α : Type} (name : String) (read : String → Except Json.Problem α) (missing : α)
    (disk : Disk) (folder : Path) : Except PrefsError α :=
  if disk.contains (folder.child name) then do
    let text ← (disk.readText (folder.child name)).mapError PrefsError.disk
    (read text).mapError PrefsError.content
  else .ok missing

/-- Writes the file of that name in a folder, which is made if nothing is there. -/
def save (name : String) (folder : Path) (text : String) : Step Disk Unit :=
  Step.ofOutcome fun disk =>
    let (result, disk) := disk.save folder name text
    (result.mapError PrefsError.disk, disk)

end PlanViewer.TextFile
