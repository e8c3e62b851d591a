import PlanViewer.Controls
import PlanViewer.Report
import PlanViewer.Settings.File

/-!
# Sessions

A session works on a store with settings in force: it takes keys by name or short name, applies the
settings where nothing else is said, and reports. It is opened over a folder whose settings file
it reads, and it changes the settings there.
-/

namespace PlanViewer

/-- A store, the settings in force, and the page controls. -/
structure Session where
  store : Store
  /-- The folder of the settings file. -/
  folder : Path
  settings : Settings
  controls : Controls
  deriving DecidableEq

/-- What can be done about settings. -/
inductive SettingsRequest where
  | showAll
  | showKey (key : String)
  | change (key value : String)
  deriving DecidableEq, Repr

namespace Session

/-- A session with given settings. -/
def withSettings (store : Store) (folder : Path) (settings : Settings) : Session :=
  ⟨store, folder, settings, .fresh⟩

/-- A session with the settings kept in a folder. -/
def start (store : Store) (folder : Path) : Except PrefsError Session :=
  (Settings.load store.disk folder).map fun settings => withSettings store folder settings

/-- The key of a name or short name. -/
def key (text : String) : Except PrefsError PrefKey :=
  match PrefKey.ofText? text with
  | some key => .ok key
  | none => .error (.unknownKey text)

/-- A step on the store. -/
def onStore {α : Type} (step : Step Store α) : Step Session α :=
  step.onPart Session.store fun s store => { s with store := store }

/-! ## Preferences -/

/-- Reports the value of a key. -/
def reportOf (key : PrefKey) (value : Option String) : Report :=
  let report :=
    match value with
    | some value => Report.empty.say .info value
    | none => Report.empty.say .warning (key.name ++ " is not set")
  if key.isDeprecated then
    report.say .warning (key.name ++ " is deprecated and no longer read by the viewer")
  else report

/-- The value of a key in a store. -/
def lookUp (now : Instant) (key : PrefKey) : Step Store Report :=
  return reportOf key (← Store.value? now key)

/-- The value of a key. -/
def get (now : Instant) (text : String) : Step Session Report := do
  let key ← key text
  onStore (lookUp now key)

/-- Keeps a value under a key, for the time in force unless days are given. -/
def set (now : Instant) (text value : String) (days : Option Int64) : Step Session Report := do
  let key ← key text
  let days := days.getD (← getThe Session).settings.expiryDays
  onStore (Store.set now key.name value days)
  return Report.empty.say .success
    (key.name ++ " set to " ++ value ++ " for " ++ Text.Decimal.ofInt64 days ++ " days")

/-- Removes the value of a key. -/
def delete (now : Instant) (text : String) : Step Session Report := do
  let key ← key text
  let before ← onStore (Store.value? now key)
  onStore (Store.delete now key.name)
  return match before with
    | some _ => Report.empty.say .success (key.name ++ " deleted")
    | none => Report.empty.say .info (key.name ++ " was not set")

/-- All values. -/
def list (now : Instant) : Step Session Report := do
  let preferences ← Step.ofRead fun s => s.store.list now
  return { Report.empty with preferences := preferences }

/-! ## Display -/

/-- The display preferences. -/
def display (now : Instant) : Step Session Report := do
  let days := (← getThe Session).settings.expiryDays
  let display ← onStore (DisplayPrefs.load now days)
  return { Report.empty with display := some display }

/-- Stores the layout numbers. -/
def saveLayout (now : Instant) (pixels height scale : Int64) : Step Session Report := do
  let days := (← getThe Session).settings.expiryDays
  onStore (DisplayPrefs.saveLayout now pixels height scale days)
  return Report.empty.say .success
    ("Layout saved: pixels=" ++ Text.Decimal.ofInt64 pixels ++
      " height=" ++ Text.Decimal.ofInt64 height ++ " scale=" ++ Text.Decimal.ofInt64 scale)

/-! ## Custom nodes -/

/-- The custom-node patterns in a store. -/
def customNodes (now : Instant) : Step Store CustomNodes :=
  return CustomNodes.ofPreference (← Store.value? now .custom)

/-- Whether a node is custom, in a given mode. -/
def isCustomNodeIn (now : Instant) (c : Candidates) (mode : MatchMode) : Step Store Bool := do
  let nodes ← customNodes now
  return !nodes.isEmpty && nodes.matchesNode c mode

/-- Whether a node is custom, in the mode in force unless one is given. -/
def isCustomNode (now : Instant) (c : Candidates) (mode : Option MatchMode) :
    Step Session Bool := do
  let mode := mode.getD (← getThe Session).settings.matchMode
  onStore (isCustomNodeIn now c mode)

/-- The custom-node patterns. -/
def customPatterns (now : Instant) : Step Session Report := do
  let nodes ← onStore (customNodes now)
  let report := { Report.empty with patterns := nodes.patterns }
  return if nodes.isEmpty then report.say .info "No custom nodes configured" else report

/-! ## Settings -/

/-- Shows or changes the settings kept in a folder. A value that a setting does not take is
reported, and nothing is written. -/
def runSettings (folder : Path) (request : SettingsRequest) : Step Disk Report := do
  let settings ← Step.ofRead fun disk => Settings.load disk folder
  match request with
  | .showAll => return { Report.empty with settings := some settings }
  | .showKey key =>
    return match settings.get? key with
      | some value => Report.empty.say .info value
      | none => Report.empty.say .error (PrefsError.unknownSetting key).message
  | .change key value =>
    match (Settings.set key value).outcome settings with
    | (.error e, _) => return Report.empty.say .error e.message
    | (.ok (), changed) =>
      changed.save folder
      return { Report.empty with settings := some changed }.say .success
        (key ++ " set to " ++ (changed.get? key).getD value)

/-- Shows or changes the settings. Settings that are reported as a whole are in force from then
on. -/
def configure (request : SettingsRequest) : Step Session Report := do
  let s ← getThe Session
  let report ← onStore (Store.onDisk (runSettings s.folder request))
  if let some settings := report.settings then
    modify fun s => { s with settings := settings }
  return report

/-! ## Calls -/

/-- What a session can be asked. -/
inductive Call where
  | get (text : String)
  | set (text value : String) (days : Option Int64)
  | delete (text : String)
  | list
  | display
  | saveLayout (pixels height scale : Int64)
  | isCustomNode (c : Candidates) (mode : Option MatchMode)
  | customPatterns
  | configure (request : SettingsRequest)

/-- What a session answers. -/
inductive Answer where
  | report (report : Report)
  | verdict (custom : Bool)

/-- Puts a call to a session. -/
def perform (now : Instant) : Call → Step Session Answer
  | .get text => return .report (← get now text)
  | .set text value days => return .report (← set now text value days)
  | .delete text => return .report (← delete now text)
  | .list => return .report (← list now)
  | .display => return .report (← display now)
  | .saveLayout pixels height scale => return .report (← saveLayout now pixels height scale)
  | .isCustomNode c mode => return .verdict (← isCustomNode now c mode)
  | .customPatterns => return .report (← customPatterns now)
  | .configure request => return .report (← configure request)

/-! ## Page controls -/

/-- A ready event of the page. -/
def onReady (s : Session) (banner : String) : Option String × Session :=
  let (markup, controls) := s.controls.onReady banner
  (markup, { s with controls := controls })

end Session

end PlanViewer
