import PlanViewer.Store
import PlanViewer.Text.Decimal

/-!
# Display preferences

The preferences as the viewer uses them: two toggles, three layout numbers and the custom-node
patterns. A toggle that is absent or empty gets its default on the first reading, and the default
is stored. A layout number is the integer that its text begins with.
-/

namespace PlanViewer

/-- What the viewer shows, and how. -/
structure DisplayPrefs where
  showGenerated : Bool
  showExpanded : Bool
  pixels : Option Int64
  height : Option Int64
  scale : Option Int64
  custom : Option String
  deriving DecidableEq

namespace DisplayPrefs

/-- The value of a toggle that is on. -/
def enabled : String := "true"

/-- The default for showing generated nodes. -/
def generatedDefault : String := "false"

/-- The default for the expanded timeline. -/
def expandedDefault : String := "true"

/-- The value under a key; when it is absent or empty, the default, which is stored. -/
def provide (now : Instant) (key : PrefKey) (default : String) (days : Int64) :
    Step Store String := do
  match (← Store.value? now key).filter fun v => decide (v ≠ "") with
  | some value => return value
  | none =>
    Store.set now key.name default days
    return (← Store.value? now key).getD default

/-- Whether generated nodes are shown, as text. -/
def provideGenerated (now : Instant) (days : Int64) : Step Store String :=
  provide now .showGenerated generatedDefault days

/-- Whether the timeline is expanded, as text. -/
def provideExpanded (now : Instant) (days : Int64) : Step Store String :=
  provide now .showExpanded expandedDefault days

/-- The integer that the value under a key begins with. -/
def readInteger (now : Instant) (key : PrefKey) : Step Store (Option Int64) :=
  return (← Store.value? now key).bind Text.Decimal.leadingInt?

/-- Reads the display preferences. -/
def load (now : Instant) (days : Int64) : Step Store DisplayPrefs := do
  let generated ← provideGenerated now days
  let expanded ← provideExpanded now days
  let pixels ← readInteger now .pixels
  let height ← readInteger now .height
  let scale ← readInteger now .scale
  let custom ← Store.value? now .custom
  return {
    showGenerated := decide (generated = enabled)
    showExpanded := decide (expanded = enabled)
    pixels := pixels
    height := height
    scale := scale
    custom := custom.filter fun v => decide (v ≠ "") }

/-- Stores the layout numbers. -/
def saveLayout (now : Instant) (pixels height scale : Int64) (days : Int64) : Step Store Unit := do
  Store.set now PrefKey.pixels.name (Text.Decimal.ofInt64 pixels) days
  Store.set now PrefKey.height.name (Text.Decimal.ofInt64 height) days
  Store.set now PrefKey.scale.name (Text.Decimal.ofInt64 scale) days

end DisplayPrefs

end PlanViewer
