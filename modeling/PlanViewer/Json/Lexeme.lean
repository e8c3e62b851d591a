import PlanViewer.Json.Problem
import PlanViewer.Text.Decimal
import PlanViewer.Text.Hex

/-!
# Words, strings and numbers

The smallest parts of a JSON text. Every reader takes the text from where the part begins and
returns what it stands for with the text that follows.

Strings and numbers come in two manners. A value that is wanted is read: its escapes have to give
characters, and its magnitude has to be one of a 64-bit float. A value that nobody wants is passed
over, and only its form is looked at.
-/

namespace PlanViewer.Json

open Text Text.Decimal

/-! ## White space and words -/

/-- The white space of JSON. -/
def isSpace (c : Char) : Bool :=
  decide (c = ' ') || decide (c = '\n') || decide (c = '\t') || decide (c = '\r')

/-- A text without its leading white space. -/
def skipSpace (cs : List Char) : List Char :=
  cs.dropWhile isSpace

/-- The rest of a word whose first letter has been read. -/
def readWord : (word : List Char) → List Char → Except Problem (List Char)
  | [], cs => .ok cs
  | _ :: _, [] => .error .truncated
  | w :: word, c :: cs => if c = w then readWord word cs else .error .malformed

/-! ## Strings -/

/-- The code of four hexadecimal digits. A text with fewer than four bytes left ends too early,
whatever they are. -/
def readHex4 (cs : List Char) : Except Problem Nat :=
  if (cs.take 4).foldl (fun n c => n + c.utf8Size) 0 < 4 then .error .truncated
  else
    match Hex.read? 0 ((cs.take 4).map Char.toNat) with
    | some code => .ok code
    | none => .error .malformed

/-- Whether a code opens a surrogate pair. -/
def isHighCode (code : Nat) : Bool :=
  decide (0xD800 ≤ code) && decide (code ≤ 0xDBFF)

/-- Whether a code closes a surrogate pair. -/
def isLowCode (code : Nat) : Bool :=
  decide (0xDC00 ≤ code) && decide (code ≤ 0xDFFF)

/-- The character of an escape that has a letter of its own. -/
def simpleEscape? (c : Char) : Option Char :=
  match c with
  | '"' => some '"'
  | '\\' => some '\\'
  | '/' => some '/'
  | 'b' => some '\x08'
  | 'f' => some '\x0c'
  | 'n' => some '\n'
  | 'r' => some '\r'
  | 't' => some '\t'
  | _ => none

/-- The second half of a surrogate pair, after the first code. -/
def readPartner : List Char → Except Problem Nat
  | [] => .error .truncated
  | '\\' :: [] => .error .truncated
  | '\\' :: 'u' :: rest =>
    (readHex4 rest).bind fun code => if isLowCode code then .ok code else .error .malformed
  | _ => .error .malformed

/-- The character of an escape after its backslash, and how many characters it takes up there. -/
def readEscape : List Char → Except Problem (Char × Nat)
  | [] => .error .truncated
  | 'u' :: rest => do
    let code ← readHex4 rest
    if isLowCode code then throw .malformed
    else if isHighCode code then
      let partner ← readPartner (rest.drop 4)
      return (Char.ofNat (0x10000 + (code - 0xD800) * 0x400 + (partner - 0xDC00)), 11)
    else return (Char.ofNat code, 5)
  | c :: _ =>
    match simpleEscape? c with
    | some char => .ok (char, 1)
    | none => .error .malformed

/-- How many characters an escape takes up after its backslash, when nobody wants its character. -/
def skipEscape : List Char → Except Problem Nat
  | [] => .error .truncated
  | 'u' :: rest => (readHex4 rest).map fun _ => 5
  | c :: _ => if (simpleEscape? c).isSome then .ok 1 else .error .malformed

/-- Whether a character may not stand in a string as it is. -/
def isControl (c : Char) : Bool :=
  decide (c.toNat < 0x20)

/-- A string after its opening quote. The first `skip` characters belong to an escape that has
been read already. -/
def readStringFrom : (skip : Nat) → List Char → Except Problem (List Char × List Char)
  | _, [] => .error .truncated
  | skip + 1, _ :: cs => readStringFrom skip cs
  | 0, c :: cs =>
    if c = '"' then .ok ([], cs)
    else if c = '\\' then do
      let (char, width) ← readEscape cs
      let (chars, rest) ← readStringFrom width cs
      return (char :: chars, rest)
    else if isControl c then .error .malformed
    else do
      let (chars, rest) ← readStringFrom 0 cs
      return (c :: chars, rest)

/-- The characters of a string after its opening quote. -/
def readString (cs : List Char) : Except Problem (String × List Char) :=
  (readStringFrom 0 cs).map fun (chars, rest) => (String.ofList chars, rest)

/-- What follows a string after its opening quote, when nobody wants its characters. -/
def skipStringFrom : (skip : Nat) → List Char → Except Problem (List Char)
  | _, [] => .error .truncated
  | skip + 1, _ :: cs => skipStringFrom skip cs
  | 0, c :: cs =>
    if c = '"' then .ok cs
    else if c = '\\' then (skipEscape cs).bind fun width => skipStringFrom width cs
    else if isControl c then .error .malformed
    else skipStringFrom 0 cs

/-! ## Numbers -/

/-- The written parts of a number. -/
structure Numeral where
  negative : Bool
  whole : List Char
  /-- The digits after the point, none without a point. -/
  fraction : List Char
  /-- The sign of the exponent, true for a minus sign, and its digits. -/
  exponent : Option (Bool × List Char)
  deriving DecidableEq, Repr

/-- The digits before the point: a zero alone, or digits that do not start with zero. -/
def readWhole (onEnd : Problem) : List Char → Except Problem (List Char × List Char)
  | [] => .error onEnd
  | c :: cs =>
    if c = '0' then
      match cs with
      | d :: _ => if isDigit d then .error .malformed else .ok (['0'], cs)
      | [] => .ok (['0'], cs)
    else if isDigit c then .ok (c :: cs.takeWhile isDigit, cs.dropWhile isDigit)
    else .error .malformed

/-- One digit or more. -/
def readDigits (onEnd : Problem) : List Char → Except Problem (List Char × List Char)
  | [] => .error onEnd
  | c :: cs =>
    if isDigit c then .ok (c :: cs.takeWhile isDigit, cs.dropWhile isDigit)
    else .error .malformed

/-- The point and the digits after it, if there is a point. -/
def readFractionPart (onEnd : Problem) : List Char → Except Problem (List Char × List Char)
  | '.' :: cs => readDigits onEnd cs
  | cs => .ok ([], cs)

/-- The exponent, if there is one. -/
def readExponent (onEnd : Problem) :
    List Char → Except Problem (Option (Bool × List Char) × List Char)
  | [] => .ok (none, [])
  | c :: cs =>
    if c = 'e' ∨ c = 'E' then
      let (negative, ds) := splitSign cs
      (readDigits onEnd ds).map fun (ds, rest) => (some (negative, ds), rest)
    else .ok (none, c :: cs)

/-- A number after its minus sign, if it has one. `onEnd` is the problem when the text ends where
a digit has to stand. -/
def readNumeral (onEnd : Problem) (negative : Bool) (cs : List Char) :
    Except Problem (Numeral × List Char) := do
  let (whole, cs) ← readWhole onEnd cs
  let (fraction, cs) ← readFractionPart onEnd cs
  let (exponent, cs) ← readExponent onEnd cs
  return (⟨negative, whole, fraction, exponent⟩, cs)

end PlanViewer.Json
