import PlanViewer.Error
import PlanViewer.Matching.Mode
import PlanViewer.Text.Decimal

/-!
# Settings

How long preferences are kept where nothing else is said, and how match outcomes combine. Each
setting has a name under which its value is read and changed as text.
-/

namespace PlanViewer

/-- The settings in force. -/
structure Settings where
  /-- How long preferences are kept, in days. -/
  expiryDays : Int64
  matchMode : MatchMode
  deriving DecidableEq

namespace Settings

/-- The settings where nothing else is said. -/
def standard : Settings :=
  ⟨365, .standard⟩

/-- The name of the setting for the time to keep preferences. -/
def expiryKey : String := "expiry-days"

/-- The name of the setting for the match mode. -/
def modeKey : String := "match-mode"

/-- The names of all settings. -/
def keys : List String :=
  [expiryKey, modeKey]

/-- The value of a setting, as text. -/
def get? (s : Settings) (key : String) : Option String :=
  if key = expiryKey then some (Text.Decimal.ofInt64 s.expiryDays)
  else if key = modeKey then some s.matchMode.name
  else none

/-- Changes a setting. A number of days has to be positive. -/
def set (key value : String) : Step Settings Unit :=
  if key = expiryKey then
    match Text.Decimal.readInt64 (Text.trimmed value) with
    | .ok days =>
      if 0 < days.toInt then modify fun s => { s with expiryDays := days }
      else throw (.invalidValue key value)
    | .error _ => throw (.invalidValue key value)
  else if key = modeKey then
    match MatchMode.read value with
    | .ok mode => modify fun s => { s with matchMode := mode }
    | .error _ => throw (.invalidValue key value)
  else throw (.unknownSetting key)

end Settings

end PlanViewer
