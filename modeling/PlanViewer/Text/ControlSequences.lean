/-!
# Control sequences

What is left of a text when a terminal could not act on it: sequences that start with the escape
character are left out, and so are controls, apart from those that are white space.

A sequence is a letter after the escape character, perhaps with signs in between; or, where that
letter opens a longer one, parameters up to a letter, a command up to a bell, or a string, which
for a device starts with parameters. An escape character inside a sequence starts a new one. White
space inside a sequence with parameters is kept, together with the text after it; the sequence then
goes on at the next character that is left out.
-/

namespace PlanViewer.Text.ControlSequences

/-- The sequence that a character stands in. -/
inductive Within where
  /-- None. -/
  | nothing
  /-- One of which there is the escape character only. -/
  | escape
  /-- One with signs before its letter. -/
  | signs
  /-- One with parameters. -/
  | parameters
  /-- A command. -/
  | command
  /-- A string for a device, of which there is nothing yet. -/
  | device
  /-- The parameters in front of such a string. -/
  | deviceParameters
  /-- The signs in front of such a string. -/
  | deviceSigns
  /-- A string. -/
  | string
  deriving DecidableEq, Repr

/-- The controls that are white space. -/
def isSpacing (c : Char) : Bool :=
  c = '\t' || c = '\n' || c = '\x0C' || c = '\r'

/-- Whether a character can be seen where there is no sequence. -/
def isVisible (c : Char) : Bool :=
  isSpacing c || (decide (0x20 ≤ c.toNat) && decide (c.toNat ≠ 0x7F))

/-- Whether a character is kept, by the sequence that it stands in. -/
def isKept (c : Char) : Within → Bool
  | .nothing => isVisible c
  | .escape | .signs | .parameters => isSpacing c
  | .command | .device | .deviceParameters | .deviceSigns | .string => false

/-- Whether a character is a letter that ends a sequence, or one of the other signs up to `~`. -/
def isFinal (least : Nat) (c : Char) : Bool :=
  decide (least ≤ c.toNat) && decide (c.toNat ≤ 0x7E)

/-- Whether the byte that ends a string is among the bytes of a character. -/
def endsString (c : Char) : Bool :=
  decide (0x80 ≤ c.toNat) && (String.utf8EncodeChar c).contains 0x9C

/-- The sequence after an escape character and one more. -/
def opened (c : Char) : Within :=
  if c = '[' then .parameters
  else if c = ']' then .command
  else if c = 'P' then .device
  else if c = 'X' ∨ c = '^' ∨ c = '_' then .string
  else if isFinal 0x30 c then .nothing
  else if isFinal 0x20 c then .signs
  else .escape

/-- What follows a character in front of a string for a device. Parameters come first, then signs;
any character from `least` on is the first of the string. -/
def beforeString (least : Nat) (c : Char) (within : Within) : Within :=
  if isFinal least c then .string
  else if isFinal 0x30 c then .deviceParameters
  else if isFinal 0x20 c then .deviceSigns
  else within

/-- The sequence after a character that is left out. -/
def advance (c : Char) (within : Within) : Within :=
  if c.toNat = 0x1B then .escape
  else if c.toNat = 0x18 ∨ c.toNat = 0x1A then .nothing
  else
    match within with
    | .nothing => .nothing
    | .escape => opened c
    | .signs => if isFinal 0x30 c then .nothing else .signs
    | .parameters => if isFinal 0x40 c then .nothing else .parameters
    | .command => if c.toNat = 0x07 then .nothing else .command
    | .device => beforeString 0x40 c within
    | .deviceParameters => beforeString 0x3C c within
    | .deviceSigns => beforeString 0x30 c within
    | .string => if endsString c then .nothing else .string

/-- The sequence after a character that is kept. -/
def pass (c : Char) (within : Within) : Within :=
  if 0x80 ≤ c.toNat then .nothing else within

/-- What is kept of a text, by the sequence that it starts in and whether the character before it
has been kept. What can be seen is kept after a character that has been kept. -/
def keep (within : Within) (kept : Bool) : List Char → List Char
  | [] => []
  | c :: rest =>
    if if kept then isVisible c else isKept c within then c :: keep (pass c within) true rest
    else keep (advance c within) false rest

/-- A text without controls and sequences of them. -/
def remove (text : String) : String :=
  String.ofList (keep .nothing false text.toList)

end PlanViewer.Text.ControlSequences
