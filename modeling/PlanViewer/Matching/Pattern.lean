import PlanViewer.Matching.Candidates
import PlanViewer.Matching.Mode

/-!
# Patterns

A pattern without `*` is a literal: it matches a node when it stands in one of the candidates, and
the empty literal stands in all of them. A pattern with `*` is cut at every `*` into fragments.
Its empty fragments are passed over and the others are looked up in the candidates; with none left
nothing was tested, and the pattern does not match.
-/

namespace PlanViewer

/-- A custom-node pattern. -/
inductive Pattern where
  | literal (text : String)
  /-- The fragments between wildcards, empty ones included. -/
  | wildcard (fragments : List String)
  deriving DecidableEq, Repr

/-- The pieces of a string between the occurrences of a character, empty ones included. -/
def pieces (separator : Char) (s : String) : List String :=
  (s.toList.splitOn separator).map String.ofList

namespace Pattern

/-- The character that divides fragments. -/
def star : Char := '*'

/-- Whether the outcomes of the fragment tests amount to a match. -/
def combine (mode : MatchMode) (outcomes : List Bool) : Bool :=
  match mode with
  | .overwrite => outcomes.getLastD false
  | .accumulate => !outcomes.isEmpty && outcomes.all id

/-- Whether fragments match: the empty ones are passed over. -/
def fragmentsMatch (fragments : List String) (c : Candidates) (mode : MatchMode) : Bool :=
  combine mode ((fragments.filter fun f => decide (f ≠ "")).map c.anyContains)

/-- The pattern that a text writes down. -/
def parse (raw : String) : Pattern :=
  if raw.toList.contains star then .wildcard (pieces star raw) else .literal raw

/-- Whether a node with those candidates matches. -/
def matchesNode (p : Pattern) (c : Candidates) (mode : MatchMode) : Bool :=
  match p with
  | .literal text => c.anyEquals text || c.anyContains text
  | .wildcard fragments => fragmentsMatch fragments c mode

/-- The text that writes a pattern down. -/
def text : Pattern → String
  | .literal t => t
  | .wildcard fragments => String.intercalate "*" fragments

/-- Tests a text as fragments, in the standard mode, whether or not it has a `*`. The empty text
tests nothing. -/
def matchesFragments (raw : String) (c : Candidates) : Bool :=
  fragmentsMatch (pieces star raw) c .standard

end Pattern

end PlanViewer
