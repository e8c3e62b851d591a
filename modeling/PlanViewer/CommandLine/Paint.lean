/-!
# Paint

Styles of terminal text. A painted text starts with the sequence of its style and ends with the one
that turns styles off. Where that one occurs inside the text the style is turned on again after it.
A text may also be put together from pieces, each in styles of its own.
-/

namespace PlanViewer.CommandLine

/-- A style of terminal text. -/
inductive Style where
  | bold
  | dimmed
  | red
  | green
  | yellow
  deriving DecidableEq, Repr

namespace Style

/-- The character that starts a sequence. -/
def escape : Char := Char.ofNat 0x1B

/-- The sequence that turns a style on. -/
def code : Style → List Char
  | .bold => [escape, '[', '1', 'm']
  | .dimmed => [escape, '[', '2', 'm']
  | .red => [escape, '[', '3', '1', 'm']
  | .green => [escape, '[', '3', '2', 'm']
  | .yellow => [escape, '[', '3', '3', 'm']

/-- The sequence that turns all styles off. -/
def plain : List Char := [escape, '[', '0', 'm']

/-- Turns a style on again wherever styles are turned off. -/
def restart (style : Style) : List Char → List Char
  | [] => []
  | a :: b :: c :: d :: rest =>
    if [a, b, c, d] = plain then plain ++ style.code ++ style.restart rest
    else a :: style.restart (b :: c :: d :: rest)
  | a :: rest => a :: style.restart rest

/-- A text in a style, where colours are wanted. -/
def paint (colored : Bool) (style : Style) (text : String) : String :=
  if colored then String.ofList (style.code ++ style.restart text.toList ++ plain) else text

end Style

/-- A piece of a text, in styles that are turned on one after the other. -/
structure Piece where
  styles : List Style
  text : String
  deriving DecidableEq, Repr

namespace Piece

/-- A string is a piece without a style. -/
instance : Coe String Piece := ⟨fun text => ⟨[], text⟩⟩

/-- A piece with its sequences. They are the same whatever occurs inside the text. -/
def render (p : Piece) : List Char :=
  if p.styles.isEmpty then p.text.toList
  else p.styles.flatMap Style.code ++ p.text.toList ++ Style.plain

/-- Pieces with their sequences. -/
def renderAll (pieces : List Piece) : String :=
  String.ofList (pieces.flatMap render)

end Piece

end PlanViewer.CommandLine
