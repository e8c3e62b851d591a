import PlanViewer.Disk
import PlanViewer.Json.Problem

/-!
# Errors

Why an operation on preferences or settings fails, and an operation that may fail over a state
that it may change. A failing operation keeps the state it has reached: whether that is the state
it started from is for theorems to say.
-/

namespace PlanViewer

/-- Why an operation fails. -/
inductive PrefsError where
  /-- No preference has that name or short name. -/
  | unknownKey (text : String)
  /-- No setting has that name. -/
  | unknownSetting (text : String)
  /-- A setting does not take that value. -/
  | invalidValue (key value : String)
  /-- The disk refuses. -/
  | disk (cause : DiskError)
  /-- A file does not hold what it should. -/
  | content (problem : Json.Problem)
  /-- The place where preferences are kept cannot be used. -/
  | store (text : String)
  deriving DecidableEq

/-- The wording of an error. What exactly is wrong with a file is not worded. -/
def PrefsError.message : PrefsError → String
  | .unknownKey text => "Unknown preference key: " ++ text
  | .unknownSetting text => "Unknown config key: " ++ text
  | .invalidValue key value => "Invalid value for " ++ key ++ ": " ++ value
  | .disk cause => "IO error: " ++ cause.message
  | .content _ => "Serialization error"
  | .store text => "Store error: " ++ text

/-- A step over a state that may fail, and that keeps the state it has reached when it does. -/
abbrev Step (σ α : Type) := ExceptT PrefsError (StateM σ) α

namespace Step

variable {σ τ α : Type}

/-- The result of a step and the state after it. -/
def outcome (step : Step σ α) (s : σ) : Except PrefsError α × σ :=
  (step.run).run s

/-- A step that reads the state and may fail. -/
def ofRead (f : σ → Except PrefsError α) : Step σ α :=
  fun s => (f s, s)

/-- A step given by its result and the state after it. -/
def ofOutcome (f : σ → Except PrefsError α × σ) : Step σ α :=
  f

/-- A step on a part of the state. -/
def onPart (get : σ → τ) (set : σ → τ → σ) (step : Step τ α) : Step σ α :=
  fun s => let (result, t) := step.outcome (get s); (result, set s t)

end Step

end PlanViewer
