import PlanViewer.Matching.Pattern

/-!
# Custom nodes

The preference for custom nodes is a list of patterns with commas between them. Empty entries
count, as empty literals; the empty text is the empty list.
-/

namespace PlanViewer

/-- A list of custom-node patterns. -/
structure CustomNodes where
  patterns : List Pattern
  deriving DecidableEq, Repr

namespace CustomNodes

/-- The character that divides patterns. -/
def comma : Char := ','

/-- The list that a text writes down. -/
def parse (raw : String) : CustomNodes :=
  if raw = "" then ⟨[]⟩ else ⟨(pieces comma raw).map Pattern.parse⟩

/-- The list of a preference that may be absent. -/
def ofPreference (raw : Option String) : CustomNodes :=
  match raw with
  | some text => parse text
  | none => ⟨[]⟩

/-- Whether there is no pattern at all. -/
def isEmpty (nodes : CustomNodes) : Bool :=
  nodes.patterns.isEmpty

/-- Whether a node with those candidates is custom: the last pattern decides in `overwrite` mode,
any pattern in `accumulate` mode, and no pattern means no. -/
def matchesNode (nodes : CustomNodes) (c : Candidates) (mode : MatchMode) : Bool :=
  let outcomes := nodes.patterns.map fun p => p.matchesNode c mode
  match mode with
  | .overwrite => outcomes.getLastD false
  | .accumulate => outcomes.any id

/-- Whether a node is custom in the standard mode. -/
def isCustomNode (nodes : CustomNodes) (c : Candidates) : Bool :=
  nodes.matchesNode c .standard

end CustomNodes

end PlanViewer
