import PlanViewer.Text.Hex

/-!
# Writing JSON

Strings are written with escapes for the quote, the backslash and the control characters below
U+0020, and all other characters as they are. An object is written on one line without blanks, or
laid out with one member a line, two more spaces in front for each object around it.
-/

namespace PlanViewer.Json

open Text

/-- How a character is written inside a string. -/
def writeChar (c : Char) : List Char :=
  match c with
  | '"' => ['\\', '"']
  | '\\' => ['\\', '\\']
  | '\x08' => ['\\', 'b']
  | '\t' => ['\\', 't']
  | '\n' => ['\\', 'n']
  | '\x0c' => ['\\', 'f']
  | '\r' => ['\\', 'r']
  | c => if c.toNat < 0x20 then '\\' :: 'u' :: Hex.write Hex.lowerDigit 4 c.toNat else [c]

/-- A string in quotes. -/
def writeString (s : String) : List Char :=
  '"' :: s.toList.flatMap writeChar ++ ['"']

/-- Texts with a text between every two of them. -/
def joined (between : List Char) : List (List Char) → List Char
  | [] => []
  | [text] => text
  | text :: rest => text ++ between ++ joined between rest

/-- An object on one line: names, and the texts of their values. -/
def writeCompact (members : List (String × List Char)) : List Char :=
  '\x7b' :: joined [','] (members.map fun (name, value) => writeString name ++ ':' :: value) ++
    ['\x7d']

/-- A line break and the spaces in front of a line at that depth. -/
def lineBreak (depth : Nat) : List Char :=
  '\n' :: List.replicate (2 * depth) ' '

/-- An object at that depth, one member a line. An object without members stays on one line. -/
def writeLaidOut (depth : Nat) (members : List (String × List Char)) : List Char :=
  if members.isEmpty then ['\x7b', '\x7d']
  else
    '\x7b' :: lineBreak (depth + 1) ++
      joined (',' :: lineBreak (depth + 1))
        (members.map fun (name, value) => writeString name ++ ':' :: ' ' :: value) ++
      lineBreak depth ++ ['\x7d']

end PlanViewer.Json
