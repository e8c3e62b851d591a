/-!
# What can be wrong with a JSON text

A text is read from left to right into the type that is wanted, and the first problem ends the
reading. Only its kind is kept.
-/

namespace PlanViewer.Json

/-- The kind of the first problem in a text. -/
inductive Problem where
  /-- The text ends too early. -/
  | truncated
  /-- The text is no JSON at that point. -/
  | malformed
  /-- The text is JSON, of another shape than the one wanted. -/
  | mismatch
  deriving DecidableEq, Repr

end PlanViewer.Json
