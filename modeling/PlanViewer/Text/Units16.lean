/-!
# 16-bit code units

A character is written as one 16-bit code unit, or as a pair of surrogates when its code point
does not fit. Reading back is forgiving: a surrogate without its partner becomes the replacement
character U+FFFD, so every sequence of units is the text of some list of characters.
-/

namespace PlanViewer.Text.Units16

/-- The code units of one character. -/
def encodeChar (c : Char) : List UInt16 :=
  if c.toNat < 0x10000 then
    [UInt16.ofNat c.toNat]
  else
    [UInt16.ofNat (0xD800 + (c.toNat - 0x10000) / 0x400),
     UInt16.ofNat (0xDC00 + (c.toNat - 0x10000) % 0x400)]

/-- The code units of a text. -/
def encode (cs : List Char) : List UInt16 :=
  cs.flatMap encodeChar

/-- A unit that opens a surrogate pair. -/
def isHigh (u : UInt16) : Bool :=
  decide (0xD800 ≤ u.toNat) && decide (u.toNat < 0xDC00)

/-- A unit that closes a surrogate pair. -/
def isLow (u : UInt16) : Bool :=
  decide (0xDC00 ≤ u.toNat) && decide (u.toNat < 0xE000)

/-- The character that stands for a surrogate without a partner. -/
def replacement : Char := Char.ofNat 0xFFFD

/-- The character of a unit that is not part of a pair. -/
def decodeUnit (u : UInt16) : Char :=
  if isHigh u || isLow u then replacement else Char.ofNat u.toNat

/-- The character of a surrogate pair. -/
def decodePair (high low : UInt16) : Char :=
  Char.ofNat (0x10000 + (high.toNat - 0xD800) * 0x400 + (low.toNat - 0xDC00))

/-- The text of a sequence of units. -/
def decode : List UInt16 → List Char
  | [] => []
  | [u] => [decodeUnit u]
  | u :: v :: rest =>
    if isHigh u && isLow v then decodePair u v :: decode rest
    else decodeUnit u :: decode (v :: rest)

end PlanViewer.Text.Units16
