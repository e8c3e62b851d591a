import PlanViewer.PrefKey
import PlanViewer.Store.CookieJar
import PlanViewer.Store.Memory
import PlanViewer.Store.PrefsFile

/-!
# Stores

A store keeps preferences in memory, in a cookie jar or in a file, and answers the same four
operations for each: the value under a name, keeping a value for some days, removing a value, and
the list of all values in order of names. What has expired is never seen.

A store has a disk beside it. Only the file store uses it for preferences; settings are kept there
in any case.
-/

namespace PlanViewer

/-- Where preferences are kept. -/
inductive Backend where
  | memory (held : Memory)
  | cookies (jar : CookieJar)
  | file (folder : Path)
  deriving DecidableEq

/-- A place for preferences, and the disk beside it. -/
structure Store where
  backend : Backend
  disk : Disk
  deriving DecidableEq

namespace Store

/-- The value under a name, if it can be read. -/
def get? (s : Store) (now : Instant) (name : String) : Except PrefsError (Option String) :=
  match s.backend with
  | .memory held => .ok (held.get? now name)
  | .cookies jar => .ok (jar.get? now name)
  | .file folder => PrefsFile.get? s.disk folder now name

/-- The values that can be read, in order of names. -/
def list (s : Store) (now : Instant) : Except PrefsError (List Preference) :=
  match s.backend with
  | .memory held => .ok (held.list now)
  | .cookies jar => .ok (jar.list now)
  | .file folder => PrefsFile.list s.disk folder now

/-- A step on the disk. -/
def onDisk {α : Type} (step : Step Disk α) : Step Store α :=
  step.onPart Store.disk fun s disk => { s with disk := disk }

/-- Keeps a value for so many days. -/
def set (now : Instant) (name value : String) (days : Int64) : Step Store Unit := do
  match (← get).backend with
  | .memory held => modify fun s => { s with backend := .memory (held.set now name value days) }
  | .cookies jar => modify fun s => { s with backend := .cookies (jar.set now name value days) }
  | .file folder => onDisk (PrefsFile.set folder now name value days)

/-- Removes a value. -/
def delete (now : Instant) (name : String) : Step Store Unit := do
  match (← get).backend with
  | .memory held => modify fun s => { s with backend := .memory (held.delete name) }
  | .cookies jar => modify fun s => { s with backend := .cookies (jar.delete name) }
  | .file folder => onDisk (PrefsFile.delete folder now name)

/-- The value under the name of a key, as a step. -/
def value? (now : Instant) (key : PrefKey) : Step Store (Option String) :=
  Step.ofRead fun s => s.get? now key.name

end Store

end PlanViewer
