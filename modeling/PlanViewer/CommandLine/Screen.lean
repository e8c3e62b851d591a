import PlanViewer.CommandLine.Paint
import PlanViewer.Report
import PlanViewer.Text.Columns
import PlanViewer.Text.Quoted
import PlanViewer.Time.Remaining

/-!
# The screen

How results are shown: the lines for messages, for a list of preferences, for the display
preferences, for patterns and for settings.
-/

namespace PlanViewer.CommandLine.Screen

/-- So many spaces. -/
def spaces (n : Nat) : String :=
  String.ofList (List.replicate n ' ')

/-- A text with spaces after it, up to a number of characters. -/
def padRight (width : Nat) (s : String) : String :=
  s ++ spaces (width - s.length)

/-- A text with spaces in front of it, up to a number of characters. -/
def padLeft (width : Nat) (s : String) : String :=
  spaces (width - s.length) ++ s

/-- The text of lines, each with its end. -/
def ofLines (lines : List String) : String :=
  String.join (lines.map (· ++ "\n"))

/-! ## Messages -/

/-- The style of a level. -/
def levelStyle : Level → Style
  | .info => .dimmed
  | .success => .green
  | .warning => .yellow
  | .error => .red

/-- The line of a message. -/
def messageLine (colored : Bool) (m : Message) : String :=
  (levelStyle m.level).paint colored m.content

/-! ## Preferences -/

/-- The width of values, in characters. -/
def valueWidth : Nat := 30

/-- The width of the time left, in characters. -/
def remainingWidth : Nat := 16

/-- The line of a preference: its name, its value, and the time it is still kept. -/
def preferenceLine (colored : Bool) (now : Instant) (nameWidth : Nat) (p : Preference) : String :=
  Style.bold.paint colored p.name ++ spaces (nameWidth - Text.Columns.count p.name) ++ "  " ++
    padRight valueWidth p.value ++ "  " ++
    Style.dimmed.paint colored
      (padLeft remainingWidth (Remaining.text (now.secondsUntil p.expires)))

/-- The lines of a list of preferences. Names share a column as wide as the widest of them. -/
def preferenceLines (colored : Bool) (now : Instant) (ps : List Preference) : List String :=
  if ps.isEmpty then ["No preferences stored."]
  else
    let nameWidth := (ps.map fun p => Text.Columns.count p.name).foldl max 0
    ps.map (preferenceLine colored now nameWidth)

/-! ## Display preferences -/

/-- The width of what is shown about the display, in characters. -/
def captionWidth : Nat := 18

/-- A line about the display. -/
def captioned (caption shown : String) : String :=
  padRight captionWidth caption ++ " " ++ shown

/-- A toggle. -/
def toggle (colored : Bool) (isOn : Bool) : String :=
  if isOn then Style.green.paint colored "on" else Style.dimmed.paint colored "off"

/-- A text that may be absent. -/
def orDash (s : Option String) : String :=
  s.getD "-"

/-- The lines of the display preferences. -/
def displayLines (colored : Bool) (d : DisplayPrefs) : List String :=
  [captioned "generated nodes" (toggle colored d.showGenerated),
   captioned "expanded timeline" (toggle colored d.showExpanded),
   captioned "pixels" (orDash (d.pixels.map Text.Decimal.ofInt64)),
   captioned "token height" (orDash (d.height.map Text.Decimal.ofInt64)),
   captioned "scale" (orDash (d.scale.map Text.Decimal.ofInt64)),
   captioned "custom nodes" (orDash d.custom)]

/-! ## Patterns -/

/-- A pattern and its kind; for one with wildcards also the fragments that are tested. -/
def patternText (colored : Bool) : Pattern → String
  | .literal text => Text.Quoted.encode text ++ " " ++ Style.dimmed.paint colored "literal"
  | .wildcard fragments =>
    let tested := (fragments.filter fun f => decide (f ≠ "")).map Text.Quoted.encode
    (Pattern.wildcard fragments).text ++ " " ++ Style.dimmed.paint colored "wildcard" ++
      " [" ++ String.intercalate ", " tested ++ "]"

/-- The lines of patterns, which are counted from one. -/
def patternLines (colored : Bool) (ps : List Pattern) : List String :=
  ps.mapIdx fun i p =>
    Style.yellow.paint colored (String.ofList (Text.Decimal.digits (i + 1)) ++ ". ") ++
      patternText colored p

/-! ## Settings -/

/-- The lines of settings. -/
def settingsLines (s : Settings) : List String :=
  Settings.keys.map fun key => key ++ " = " ++ (s.get? key).getD ""

end PlanViewer.CommandLine.Screen
