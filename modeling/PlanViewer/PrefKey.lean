/-!
# Preference keys

The preferences that the plan viewer keeps. Each has the name it is stored under and a short name
for the command line; either one may be given.
-/

namespace PlanViewer

/-- A preference that the viewer knows. -/
inductive PrefKey where
  /-- Whether generated nodes are shown. -/
  | showGenerated
  /-- Whether the timeline is expanded. -/
  | showExpanded
  /-- The name of a plan file. The viewer no longer reads it; old values can still be listed and
  deleted. -/
  | planFile
  /-- Pixels for a time increment. -/
  | pixels
  /-- The height of a token. -/
  | height
  /-- The scaling. -/
  | scale
  /-- The patterns of custom nodes. -/
  | custom
  deriving DecidableEq, Repr

namespace PrefKey

/-- All keys. -/
def all : List PrefKey :=
  [.showGenerated, .showExpanded, .planFile, .pixels, .height, .scale, .custom]

/-- The name that the value is stored under. -/
def name : PrefKey → String
  | .showGenerated => "showGenCookie"
  | .showExpanded => "showLineCookie"
  | .planFile => "showFileCookie"
  | .pixels => "showPixelsCookie"
  | .height => "showHeightCookie"
  | .scale => "showScaleCookie"
  | .custom => "showCustomCookie"

/-- The short name. -/
def shortName : PrefKey → String
  | .showGenerated => "gen"
  | .showExpanded => "line"
  | .planFile => "file"
  | .pixels => "pixels"
  | .height => "height"
  | .scale => "scale"
  | .custom => "custom"

/-- Whether the viewer no longer reads the value. -/
def isDeprecated (key : PrefKey) : Bool :=
  decide (key = .planFile)

/-- The key of that name or short name. -/
def ofText? (s : String) : Option PrefKey :=
  all.find? fun key => decide (key.name = s) || decide (key.shortName = s)

@[simp]
theorem ofText?_name (key : PrefKey) : ofText? key.name = some key := by
  cases key <;> decide

@[simp]
theorem ofText?_shortName (key : PrefKey) : ofText? key.shortName = some key := by
  cases key <;> decide

end PrefKey

end PlanViewer
