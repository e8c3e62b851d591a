/-!
# Page controls

The controls for adding a plan are put on the page once, at the first of its ready events.
-/

namespace PlanViewer

/-- How many ready events there have been. -/
structure Controls where
  readyCount : Nat
  deriving DecidableEq, Repr

namespace Controls

/-- The controls of a page that is not ready yet. -/
def fresh : Controls := ⟨0⟩

/-- The markup of the controls. -/
def markup : String :=
  "<div id=\"addplan\">" ++
  "<input type=\"text\" id=\"planname\" class=\"newhidden\" />" ++
  "<button id=\"planstartup\" class=\"newhidden\">Add plan</button>" ++
  "<button id=\"defaultplan\" class=\"newhidden\">Latest run</button>" ++
  "</div>"

/-- A ready event: what is put on the page, and the controls after it. -/
def onReady (c : Controls) (banner : String) : Option String × Controls :=
  (if c.readyCount = 0 then some (banner ++ markup) else none, ⟨c.readyCount + 1⟩)

end Controls

end PlanViewer
