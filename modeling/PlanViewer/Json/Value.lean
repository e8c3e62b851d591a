import PlanViewer.Json.Magnitude

/-!
# Values

Readers of single values of a wanted type, and the passing over of values that nobody wants.

A value of another type than the wanted one is a mismatch, but only once its beginning has been
read: the word, number or string that stands there has to be well formed. Lists and objects are a
mismatch from their opening bracket.
-/

namespace PlanViewer.Json

open Text.Decimal

/-! ## Wanted values -/

/-- The problem with a value of another type than the wanted one. The text is what the value
begins with. -/
def mismatchAt (cs : List Char) : Problem :=
  let after {α : Type} (r : Except Problem α) : Problem :=
    match r with
    | .ok _ => .mismatch
    | .error p => p
  match cs with
  | [] => .truncated
  | c :: rest =>
    if c = 'n' then after (readWord ['u', 'l', 'l'] rest)
    else if c = 't' then after (readWord ['r', 'u', 'e'] rest)
    else if c = 'f' then after (readWord ['a', 'l', 's', 'e'] rest)
    else if c = '-' then after (readNumber true rest)
    else if isDigit c then after (readNumber false cs)
    else if c = '"' then after (readString rest)
    else if c = '[' ∨ c = '\x7b' then .mismatch
    else .malformed

/-- A string. -/
def stringValue (cs : List Char) : Except Problem (String × List Char) :=
  match skipSpace cs with
  | [] => .error .truncated
  | '"' :: rest => readString rest
  | cs => .error (mismatchAt cs)

/-- The integer of a number that has been read. -/
def integerOf (r : Numeral × List Char) : Except Problem (Int64 × List Char) :=
  match r.1.integer?.bind int64? with
  | some n => .ok (n, r.2)
  | none => .error .mismatch

/-- A 64-bit integer, written without point and exponent. -/
def int64Value (cs : List Char) : Except Problem (Int64 × List Char) :=
  match skipSpace cs with
  | [] => .error .truncated
  | c :: rest =>
    if c = '-' then (readNumber true rest).bind integerOf
    else if isDigit c then (readNumber false (c :: rest)).bind integerOf
    else .error (mismatchAt (c :: rest))

/-- The word `null`. -/
def nullValue (cs : List Char) : Except Problem (List Char) :=
  match skipSpace cs with
  | [] => .error .truncated
  | 'n' :: rest => readWord ['u', 'l', 'l'] rest
  | cs => .error (mismatchAt cs)

/-- The colon between a name and its value. -/
def colon (cs : List Char) : Except Problem (List Char) :=
  match skipSpace cs with
  | [] => .error .truncated
  | ':' :: rest => .ok rest
  | _ => .error .malformed

/-! ## Values that nobody wants -/

/-- What follows a word, number or string. -/
def skipScalar : List Char → Except Problem (List Char)
  | [] => .error .truncated
  | c :: rest =>
    if c = 'n' then readWord ['u', 'l', 'l'] rest
    else if c = 't' then readWord ['r', 'u', 'e'] rest
    else if c = 'f' then readWord ['a', 'l', 's', 'e'] rest
    else if c = '-' then (readNumeral .malformed true rest).map Prod.snd
    else if isDigit c then (readNumeral .malformed false (c :: rest)).map Prod.snd
    else if c = '"' then skipStringFrom 0 rest
    else .error .malformed

/-- A list or an object that has been opened and not closed yet. -/
inductive Frame where
  | list
  | object
  deriving DecidableEq, Repr

/-- The bracket that closes a frame. -/
def Frame.closer : Frame → Char
  | .list => ']'
  | .object => '\x7d'

/-- The name and the colon in front of a value of a frame. A list has none. -/
def Frame.skipName (frame : Frame) (cs : List Char) : Except Problem (List Char) :=
  match frame with
  | .list => .ok cs
  | .object =>
    match skipSpace cs with
    | [] => .error .truncated
    | '"' :: rest => (skipStringFrom 0 rest).bind colon
    | _ => .error .malformed

/-- What may come next while values are passed over. -/
inductive Next where
  | value
  /-- The end of the innermost frame, or another value of it: after a comma if there has been one
  before, without a comma if not. -/
  | more (hasValue : Bool)
  deriving DecidableEq, Repr

/-- What follows a value, given the frames that are open inside it, the innermost first. -/
def skipFrom : (fuel : Nat) → Next → (frames : List Frame) → List Char →
    Except Problem (List Char)
  | 0, _, _, _ => .error .truncated
  | fuel + 1, .value, frames, cs =>
    match skipSpace cs with
    | '[' :: rest => skipFrom fuel (.more false) (.list :: frames) rest
    | '\x7b' :: rest => skipFrom fuel (.more false) (.object :: frames) rest
    | cs => (skipScalar cs).bind fun rest => skipFrom fuel (.more true) frames rest
  | _ + 1, .more _, [], cs => .ok cs
  | fuel + 1, .more hasValue, frame :: frames, cs =>
    match skipSpace cs with
    | [] => .error .truncated
    | c :: rest =>
      if c = frame.closer then skipFrom fuel (.more true) frames rest
      else if hasValue then
        if c = ',' then
          (frame.skipName rest).bind fun rest => skipFrom fuel .value (frame :: frames) rest
        else .error .malformed
      else
        (frame.skipName (c :: rest)).bind fun rest =>
          skipFrom fuel .value (frame :: frames) rest

/-- What follows a value of any type. Each character is met at most twice, once as the possible
end of a frame and once as the beginning of a value. -/
def skipValue (cs : List Char) : Except Problem (List Char) :=
  skipFrom (2 * cs.length + 2) .value [] cs

end PlanViewer.Json
