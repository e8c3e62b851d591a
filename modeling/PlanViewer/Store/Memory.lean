import PlanViewer.Catalog

/-!
# Preferences in memory

The plainest store: a catalog that is kept as long as the program runs. Expired entries stay until
they are replaced or deleted, and are passed over by every reading.
-/

namespace PlanViewer

/-- Preferences in memory. -/
structure Memory where
  held : Catalog
  deriving DecidableEq

namespace Memory

/-- The store without entries. -/
def empty : Memory := ⟨.empty⟩

/-- The value under a name, if it can be read. -/
def get? (m : Memory) (now : Instant) (name : String) : Option String :=
  m.held.value? now name

/-- Keeps a value for so many days. -/
def set (m : Memory) (now : Instant) (name value : String) (days : Int64) : Memory :=
  ⟨m.held.insert (.keptFor now name value days)⟩

/-- Removes a value. -/
def delete (m : Memory) (name : String) : Memory :=
  ⟨m.held.erase name⟩

/-- The values that can be read, in order of names. -/
def list (m : Memory) (now : Instant) : List Preference :=
  (m.held.live now).entries

end Memory

end PlanViewer
