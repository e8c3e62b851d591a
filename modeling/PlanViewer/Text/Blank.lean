import PlanViewer.Text.Ranges

/-!
# White space

The characters of the `White_Space` property, and the three ways of trimming them. The class is
wider than the four blanks of `Char.isWhitespace`: it has the other ASCII line controls, the
no-break space and the typographic spaces, and it leaves out the zero-width characters.
-/

namespace PlanViewer.Text

/-- The code points of the `White_Space` property. -/
def blankRanges : Ranges :=
  [(0x09, 0x0D), (0x20, 0x20), (0x85, 0x85), (0xA0, 0xA0), (0x1680, 0x1680), (0x2000, 0x200A),
   (0x2028, 0x2029), (0x202F, 0x202F), (0x205F, 0x205F), (0x3000, 0x3000)]

/-- Whether a character is white space. -/
def isBlank (c : Char) : Bool :=
  blankRanges.holds c

/-- A text without its leading white space. -/
def trimStart (cs : List Char) : List Char :=
  cs.dropWhile isBlank

/-- A text without its trailing white space. -/
def trimEnd (cs : List Char) : List Char :=
  (cs.reverse.dropWhile isBlank).reverse

/-- A text without the white space around it. -/
def trim (cs : List Char) : List Char :=
  trimEnd (trimStart cs)

/-- A string without the white space around it. -/
def trimmed (s : String) : String :=
  String.ofList (trim s.toList)

end PlanViewer.Text
