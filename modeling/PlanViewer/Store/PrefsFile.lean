import PlanViewer.Catalog
import PlanViewer.Preference.Json
import PlanViewer.TextFile

/-!
# Preferences in a file

Preferences are kept in the file `prefs.json` of a folder: an object with a member for each name,
which holds the fields `value` and `expires_at`. The file is read for every operation and written
for every change, without the entries that have expired by then. Where there is no such file there
are no preferences, and the folder is made with the first one.
-/

namespace PlanViewer

open Json

namespace Catalog

/-- The fields of an entry that have been read so far. -/
structure Fields where
  value : Option String
  expires : Option Instant

/-- Reads the value of one member of an entry. -/
def Fields.step (f : Fields) (member : String) (cs : List Char) :
    Except Problem (Fields × List Char) :=
  if member = "value" then
    (fieldValue f.value stringValue cs).map fun (v, rest) => (⟨some v, f.expires⟩, rest)
  else if member = "expires_at" then
    (fieldValue f.expires instantValue cs).map fun (v, rest) => (⟨f.value, some v⟩, rest)
  else (otherValue cs).map fun rest => (f, rest)

/-- An entry of its fields, all of which have to be there. -/
def Fields.finish (f : Fields) : Except Problem (String × Instant) := do
  return (← required f.value, ← required f.expires)

/-- An entry of a list of its fields. -/
def readElements (cs : List Char) : Except Problem ((String × Instant) × List Char) := do
  let (value, cs) ← requiredElement true stringValue cs
  let (expires, cs) ← requiredElement false instantValue cs
  return ((value, expires), cs)

/-- The value and expiry of an entry. -/
def entryValue (cs : List Char) : Except Problem ((String × Instant) × List Char) :=
  recordValue ⟨none, none⟩ Fields.step Fields.finish readElements cs

/-- A catalog. Of several members of one name the last counts. -/
def jsonValue (cs : List Char) : Except Problem (Catalog × List Char) :=
  mapValue empty (fun c name entry => c.insert ⟨name, entry.1, entry.2⟩) entryValue cs

/-- The catalog that a text holds. -/
def ofJson (text : String) : Except Problem Catalog :=
  document jsonValue text

/-- The text of an entry's value and expiry. -/
def writeEntry (p : Preference) : List Char :=
  writeLaidOut 1 [("value", writeString p.value), ("expires_at", writeInstant p.expires)]

/-- The text of a catalog, laid out. -/
def toJson (c : Catalog) : String :=
  String.ofList (writeLaidOut 0 (c.entries.map fun p => (p.name, writeEntry p)))

end Catalog

namespace PrefsFile

/-- The name of the file. -/
def fileName : String := "prefs.json"

/-- The preferences kept in a folder, expired ones included. -/
def load (disk : Disk) (folder : Path) : Except PrefsError Catalog :=
  TextFile.load fileName Catalog.ofJson .empty disk folder

/-- Writes the file. The folder is made if nothing is there. -/
def save (folder : Path) (c : Catalog) : Step Disk Unit :=
  TextFile.save fileName folder c.toJson

/-- The value under a name, if it can be read. -/
def get? (disk : Disk) (folder : Path) (now : Instant) (name : String) :
    Except PrefsError (Option String) :=
  (load disk folder).map fun c => c.value? now name

/-- The values that can be read, in order of names. -/
def list (disk : Disk) (folder : Path) (now : Instant) :
    Except PrefsError (List Preference) :=
  (load disk folder).map fun c => (c.live now).entries

/-- Keeps a value for so many days. -/
def set (folder : Path) (now : Instant) (name value : String) (days : Int64) :
    Step Disk Unit := do
  let c ← Step.ofRead fun disk => load disk folder
  save folder ((c.live now).insert (.keptFor now name value days))

/-- Removes a value. Where there is none, the file stays as it is. -/
def delete (folder : Path) (now : Instant) (name : String) : Step Disk Unit := do
  let c ← Step.ofRead fun disk => load disk folder
  match c.get? name with
  | none => return ()
  | some _ => save folder ((c.erase name).live now)

end PrefsFile

end PlanViewer
