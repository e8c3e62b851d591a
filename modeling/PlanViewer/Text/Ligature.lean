import PlanViewer.Text.Ranges

/-!
# Ligatures

Letters that some scripts show as one sign. Each ligature is given by the letter it ends with and
by the letters in front of it, some of them only when a joiner stands between. Marks that are
ignored by default may stand anywhere inside, and joiners as well except in Arabic; there any mark
may stand that letters can be joined across. Selectors never matter.

The vowel signs of Kirat Rai are put together from strokes, and nothing may stand between these.
-/

namespace PlanViewer.Text

/-- What a ligature ends with: one letter, or what has been read of a longer one. -/
inductive Ending where
  /-- An Arabic alef. -/
  | alef
  /-- A Hebrew lamed. -/
  | lamed
  /-- A Khmer letter that can be written below another one. -/
  | khmer
  /-- A Buginese ya. -/
  | ya
  /-- A Buginese vowel sign with the ya that is joined to it. -/
  | signYa
  /-- A Tifinagh consonant. -/
  | tifinagh
  /-- A Tifinagh consonant with the sign that joins consonants. -/
  | joinedTifinagh
  /-- The second of two Lisu tones. -/
  | lisu
  /-- An Old Turkic letter. -/
  | turkic
  deriving DecidableEq, Repr

namespace Ending

/-- The Arabic letters of the group of alef. -/
def alefRanges : Ranges :=
  [(0x622, 0x623), (0x625, 0x625), (0x627, 0x627), (0x671, 0x673), (0x675, 0x675), (0x773, 0x774),
   (0x870, 0x882)]

/-- The Arabic letters of the group of lam. -/
def lamRanges : Ranges :=
  [(0x644, 0x644), (0x6B5, 0x6B8), (0x76A, 0x76A), (0x8A6, 0x8A6), (0x8C7, 0x8C7)]

/-- The Khmer letters that can be written below another one. -/
def khmerRanges : Ranges :=
  [(0x1780, 0x1782), (0x1784, 0x1787), (0x1789, 0x178C), (0x178E, 0x1793), (0x1795, 0x1798),
   (0x179B, 0x179D), (0x17A0, 0x17A0), (0x17A2, 0x17A2), (0x17A7, 0x17A7), (0x17AB, 0x17AC),
   (0x17AF, 0x17AF)]

/-- The Tifinagh consonants. -/
def tifinaghRanges : Ranges :=
  [(0x2D31, 0x2D65), (0x2D6F, 0x2D6F)]

/-- What a letter ends, if anything. -/
def ofChar? (c : Char) : Option Ending :=
  let code := c.toNat
  if alefRanges.holds c then some .alef
  else if code = 0x5DC then some .lamed
  else if khmerRanges.holds c then some .khmer
  else if code = 0x1A10 then some .ya
  else if tifinaghRanges.holds c then some .tifinagh
  else if code = 0xA4FC ∨ code = 0xA4FD then some .lisu
  else if code = 0x10C03 then some .turkic
  else none

/-- What a letter in front of an ending adds to the width, and the ending that it makes of it if
the ligature can go on. Between the two there may have been a joiner. -/
def extend? (e : Ending) (joined : Bool) (c : Char) : Option (Int × Option Ending) :=
  let code := c.toNat
  match e with
  | .alef => if lamRanges.holds c then some (0, none) else none
  | .lamed => if joined && decide (code = 0x5D0) then some (0, none) else none
  | .khmer => if code = 0x17D2 then some (-1, none) else none
  | .ya => if joined && decide (code = 0x1A17) then some (0, some .signYa) else none
  | .signYa => if code = 0x1A15 then some (0, none) else none
  | .tifinagh =>
    if code = 0x2D7F then some (1, some .joinedTifinagh)
    else if joined && tifinaghRanges.holds c then some (0, none)
    else none
  | .joinedTifinagh => if tifinaghRanges.holds c then some (-1, none) else none
  | .lisu => if 0xA4F8 ≤ code ∧ code ≤ 0xA4FB then some (0, none) else none
  | .turkic => if joined && decide (code = 0x10C32) then some (0, none) else none

/-- The marks that are ignored by default. -/
def ignorableRanges : Ranges :=
  [(0x34F, 0x34F), (0x17B4, 0x17B5), (0x180B, 0x180D), (0x180F, 0x180F), (0xFE00, 0xFE0F),
   (0xE0100, 0xE01EF)]

/-- The code points without width that Arabic letters are not joined across. -/
def separatingRanges : Ranges :=
  [(0x605, 0x605), (0x890, 0x891), (0x8E2, 0x8E2), (0x9BE, 0x9BE), (0x9D7, 0x9D7), (0xB3E, 0xB3E),
   (0xB57, 0xB57), (0xBBE, 0xBBE), (0xBD7, 0xBD7), (0xCC0, 0xCC0), (0xCC2, 0xCC2), (0xCC7, 0xCC8),
   (0xCCA, 0xCCB), (0xCD5, 0xCD6), (0xD3E, 0xD3E), (0xD4E, 0xD4E), (0xD57, 0xD57), (0xDCF, 0xDCF),
   (0xDDF, 0xDDF), (0x115F, 0x11FF), (0x1715, 0x1715), (0x1734, 0x1734), (0x180E, 0x180E),
   (0x1B35, 0x1B35), (0x1B3B, 0x1B3B), (0x1B3D, 0x1B3D), (0x1B43, 0x1B44), (0x1BAA, 0x1BAA),
   (0x1BF2, 0x1BF3), (0x200C, 0x200D), (0x2065, 0x2069), (0x302E, 0x302F), (0x3164, 0x3164),
   (0xA8FA, 0xA8FA), (0xA953, 0xA953), (0xA9C0, 0xA9C0), (0xD7B0, 0xD7C6), (0xD7CB, 0xD7FB),
   (0xFFA0, 0xFFA0), (0xFFF0, 0xFFF8), (0x111C0, 0x111C0), (0x111C2, 0x111C3), (0x11235, 0x11235),
   (0x1133E, 0x1133E), (0x1134D, 0x1134D), (0x11357, 0x11357), (0x113B8, 0x113B8),
   (0x113C2, 0x113C2), (0x113C5, 0x113C5), (0x113C7, 0x113C9), (0x113CF, 0x113CF),
   (0x113D1, 0x113D1), (0x114B0, 0x114B0), (0x114BD, 0x114BD), (0x115AF, 0x115AF),
   (0x116B6, 0x116B6), (0x11930, 0x11930), (0x1193D, 0x1193D), (0x1193F, 0x1193F),
   (0x11941, 0x11941), (0x11A84, 0x11A89), (0x11D46, 0x11D46), (0x11F02, 0x11F02),
   (0x11F41, 0x11F41), (0x16FF0, 0x16FF1), (0x1D165, 0x1D166), (0x1D16D, 0x1D172),
   (0x1D250, 0x1D252), (0x1D25F, 0x1D25F), (0x1D280, 0x1D281), (0xE0000, 0xE0000),
   (0xE0002, 0xE001F), (0xE0080, 0xE00FF), (0xE01F0, 0xE0FFF)]

end Ending

/-- The first stroke of a Kirat Rai vowel sign: a single one, or the two of a double one. -/
inductive Stroke where
  | single
  | double
  deriving DecidableEq, Repr

namespace Stroke

/-- The strokes that a vowel sign is. -/
def ofChar? (c : Char) : Option Stroke :=
  if c.toNat = 0x16D67 then some .single
  else if c.toNat = 0x16D68 then some .double
  else none

/-- What a vowel sign in front of strokes adds to the width, and the strokes that it makes of them
if more can be put in front. -/
def extend? (s : Stroke) (c : Char) : Option (Int × Option Stroke) :=
  let code := c.toNat
  match s with
  | .single =>
    if code = 0x16D63 ∨ code = 0x16D69 then some (0, none)
    else if code = 0x16D67 then some (0, some .double)
    else if code = 0x16D68 then some (1, some .single)
    else none
  | .double => if code = 0x16D63 then some (0, none) else none

end Stroke

end PlanViewer.Text
