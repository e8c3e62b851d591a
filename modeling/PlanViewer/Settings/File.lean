import PlanViewer.Settings.Json
import PlanViewer.TextFile

/-!
# The settings file

Settings are kept in the file `config.json` of a folder. Where there is no such file the standard
settings are in force.
-/

namespace PlanViewer.Settings

/-- The name of the settings file. -/
def fileName : String := "config.json"

/-- The settings kept in a folder. -/
def load (disk : Disk) (folder : Path) : Except PrefsError Settings :=
  TextFile.load fileName ofJson standard disk folder

/-- Keeps settings in a folder, which is made if nothing is there. -/
def save (s : Settings) (folder : Path) : Step Disk Unit :=
  TextFile.save fileName folder s.toJson

end PlanViewer.Settings
