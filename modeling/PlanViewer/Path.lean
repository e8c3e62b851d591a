/-!
# Paths

A place on the disk is named by the folders that lead to it from the top. A path is what a text
makes of that: the names on the way, where `..` leads back to the folder around, how the text ends,
and how long it is. Empty parts of a text, and parts `.` inside it, do not matter to the names.
-/

namespace PlanViewer

/-- The names that lead from the top folder to a place. -/
abbrev Place := List String

namespace Path

/-- How the text of a path ends. -/
inductive Ending where
  /-- In a name. -/
  | name
  /-- In a name and a slash. -/
  | slash
  /-- In `.`, which is the folder before it. -/
  | dot
  /-- In `.` and a slash. -/
  | dotSlash
  deriving DecidableEq, Repr

/-- Whether the last part of a text is `.`. -/
def Ending.isDot : Ending → Bool
  | .dot | .dotSlash => true
  | .name | .slash => false

/-- Whether the last character of a text is a slash. -/
def Ending.hasSlash : Ending → Bool
  | .slash | .dotSlash => true
  | .name | .dot => false

/-- The most bytes that a name can have. -/
def nameLimit : Nat := 255

/-- The most bytes that the text of a path can have. -/
def sizeLimit : Nat := 4095

end Path

/-- A path, as a text names it. -/
structure Path where
  /-- The names on the way, from the top. -/
  names : Place
  ending : Path.Ending
  /-- The bytes of the text. -/
  size : Nat
  deriving DecidableEq, Repr

namespace Path

/-- The path to something in the folder that a path leads to. -/
def child (p : Path) (name : String) : Path :=
  ⟨p.names ++ [name], .name,
    p.size + (if p.ending.hasSlash then 0 else 1) + name.utf8ByteSize⟩

/-- A path without the slash at its end. -/
def withoutSlash (p : Path) : Path :=
  if p.ending = .slash then { p with ending := .name } else p

/-- The path from the top to a place. -/
def ofPlace (place : Place) : Path :=
  ⟨place, .name, place.foldl (fun size name => size + 1 + name.utf8ByteSize) 0⟩

/-- The parts of a text between slashes. -/
def partsOf (text : String) : List String :=
  (text.toList.splitOn '/').map String.ofList

/-- The names in a text, from a folder unless the text starts at the top. -/
def namesOf (here : Place) (text : String) : Place :=
  let names := (partsOf text).filter fun part => decide (part ≠ "") && decide (part ≠ ".")
  if text.toList.head? = some '/' then names else here ++ names

/-- How a text ends. -/
def endingOf (text : String) : Ending :=
  let reversed := (partsOf text).reverse
  let closed := decide (reversed.head? = some "")
  if (reversed.dropWhile fun part => decide (part = "")).head? = some "." then
    if closed then .dotSlash else .dot
  else if closed then .slash
  else .name

/-- The path that a text names, from a folder unless the text starts at the top. -/
def ofText (here : Place) (text : String) : Path :=
  ⟨namesOf here text, endingOf text, text.utf8ByteSize⟩

end Path

end PlanViewer
