import PlanViewer.Time.Moment

/-!
# Timestamps

The text of an instant in files: `2012-03-04T05:06:07Z`, with a fraction of three, six or nine
digits, the fewest that are exact, and none for a whole second.

Reading is lenient. White space may stand before each number, each mark and the offset, and after
everything; numbers other than the year have one or two digits; a year without a sign has at most
four digits and one with a sign any number; a fraction has at least one digit, and those after the
ninth play no part; the date is set off from the time by `T`, `t` or a space. The offset is `Z`,
`z`, `UTC` in any case, or a sign, two digits, any colons and white space, and two digits for the
minutes; it is less than a day.
-/

namespace PlanViewer.Timestamp

open Text Text.Decimal

/-! ## Writing -/

/-- The text of the fraction of a second. -/
def fractionText (nanos : Nat) : List Char :=
  if nanos = 0 then []
  else if nanos % 1000000 = 0 then '.' :: fixed 3 (nanos / 1000000)
  else if nanos % 1000 = 0 then '.' :: fixed 6 (nanos / 1000)
  else '.' :: fixed 9 nanos

/-- The text of an instant. -/
def write (t : Instant) : List Char :=
  let m := Moment.ofInstant t
  Moment.yearText m.date.year ++ '-' :: fixed 2 m.date.month ++ '-' :: fixed 2 m.date.day ++
    'T' :: fixed 2 m.hour ++ ':' :: fixed 2 m.minute ++ ':' :: fixed 2 m.second ++
    fractionText m.nanos ++ ['Z']

/-- The text of an instant, as a string. -/
def text (t : Instant) : String :=
  String.ofList (write t)

/-! ## Reading -/

/-- A number of one digit or more and at most `width`: its value, and what follows. -/
def readNumber (width : Nat) (cs : List Char) : Option (Nat × List Char) :=
  let ds := (cs.takeWhile isDigit).take width
  if ds = [] then none else some (value ds, cs.drop ds.length)

/-- A number after optional white space, of one or two digits. -/
def readField (cs : List Char) : Option (Nat × List Char) :=
  readNumber 2 (trimStart cs)

/-- A mark after optional white space. -/
def readMark (mark : Char) (cs : List Char) : Option (List Char) :=
  match trimStart cs with
  | c :: rest => if c = mark then some rest else none
  | [] => none

/-- A year after optional white space. -/
def readYear (cs : List Char) : Option (Int × List Char) :=
  match trimStart cs with
  | '-' :: rest => (readNumber rest.length rest).map fun (n, rest) => (-Int.ofNat n, rest)
  | '+' :: rest => (readNumber rest.length rest).map fun (n, rest) => (Int.ofNat n, rest)
  | cs => (readNumber 4 cs).map fun (n, rest) => (Int.ofNat n, rest)

/-- The mark between date and time. -/
def readDivider : List Char → Option (List Char)
  | 'T' :: rest => some rest
  | 't' :: rest => some rest
  | ' ' :: rest => some rest
  | _ => none

/-- An optional fraction of a second, in nanoseconds. -/
def readFraction : List Char → Option (Nat × List Char)
  | '.' :: rest =>
    let ds := rest.takeWhile isDigit
    if ds = [] then none
    else some (value (ds.take 9) * Nat.pow 10 (9 - (ds.take 9).length), rest.drop ds.length)
  | cs => some (0, cs)

/-- A number of exactly two digits. -/
def readPair : List Char → Option (Nat × List Char)
  | a :: b :: rest => if isDigit a && isDigit b then some (value [a, b], rest) else none
  | _ => none

/-- The hours and minutes of an offset, in seconds. -/
def readHoursMinutes (cs : List Char) : Option (Int × List Char) := do
  let (hours, rest) ← readPair cs
  let (minutes, rest) ← readPair (rest.dropWhile fun c => decide (c = ':') || isBlank c)
  if minutes ≤ 59 then some (Int.ofNat (hours * 3600 + minutes * 60), rest) else none

/-- Whether a text begins with the name of universal time, in any case. -/
def beginsWithUniversal (cs : List Char) : Bool :=
  decide ((cs.take 3).map Char.toUpper = ['U', 'T', 'C'])

/-- The minus sign of mathematics. -/
def minusSign : Char := Char.ofNat 0x2212

/-- An offset after optional white space, in seconds. -/
def readOffset (cs : List Char) : Option (Int × List Char) :=
  let cs := trimStart cs
  if beginsWithUniversal cs then some (0, cs.drop 3)
  else
    match cs with
    | [] => none
    | c :: rest =>
      if c = 'Z' ∨ c = 'z' then some (0, rest)
      else if c = '+' then readHoursMinutes rest
      else if c = '-' ∨ c = minusSign then
        (readHoursMinutes rest).map fun (seconds, rest) => (-seconds, rest)
      else none

/-- The instant that a text shows. -/
def read? (cs : List Char) : Option Instant := do
  let (year, cs) ← readYear cs
  let cs ← readMark '-' cs
  let (month, cs) ← readField cs
  let cs ← readMark '-' cs
  let (day, cs) ← readField cs
  let cs ← readDivider cs
  let (hour, cs) ← readField cs
  let cs ← readMark ':' cs
  let (minute, cs) ← readField cs
  let cs ← readMark ':' cs
  let (second, cs) ← readField cs
  let (nanos, cs) ← readFraction cs
  let (offset, cs) ← readOffset cs
  if trimStart cs = [] ∧ offset.natAbs < 86400 then
    Moment.toInstant? ⟨⟨year, month, day⟩, hour, minute, second, nanos⟩ offset
  else none

end PlanViewer.Timestamp
