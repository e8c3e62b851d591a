import PlanViewer.Text.Extending
import PlanViewer.Text.Ligature
import PlanViewer.Text.Pictures
import PlanViewer.Text.Wide

/-!
# Columns

How many columns of a terminal a text takes up: two for a wide character, none for marks and
invisible characters, one for any other, controls included. Some sequences count as one sign: a
carriage return with the line feed after it, a picture or text that a selector asks for, a figure
with its skin tone, pictures that are joined, flags among them, and ligatures.

A text is measured from its end, since what follows a character decides how it is shown.
-/

namespace PlanViewer.Text.Columns

/-- The columns of a character by itself. -/
def ofChar (c : Char) : Nat :=
  let code := c.toNat
  if code ≤ 0xA0 then 1
  else if code = 0x17D8 then 3
  else if code = 0x115F ∨ code = 0x17A4 then 2
  else if code = 0x2D7F then 1
  else if isExtending c || isHidden c then 0
  else if isWide c then 2
  else 1

/-! ## What follows a character -/

/-- What the text after a character starts with. -/
inductive Start where
  /-- Nothing that matters. -/
  | plain
  | lineFeed
  | tone
  /-- A picture that has been counted. -/
  | picture
  /-- A joiner before a picture that has been counted. -/
  | joiner
  /-- A keycap before such a joiner. -/
  | keycap
  /-- A letter for a region. -/
  | region
  /-- Several letters for regions. -/
  | regions
  /-- Letters for regions before such a joiner: their number is odd or even, and a single one is
  told apart. -/
  | joinedRegion
  | joinedOdd
  | joinedEven
  /-- Tag letters before the tag that ends a flag before such a joiner. -/
  | tagLetters (n : Nat)
  /-- Tag digits before these. -/
  | tagDigits (n : Nat)
  /-- The end of a ligature, perhaps with a joiner before it. -/
  | ending (e : Ending) (joined : Bool)
  /-- A vowel sign made of strokes. -/
  | stroke (s : Stroke)
  deriving DecidableEq, Repr

/-- What a selector asks for. -/
inductive Selector where
  | picture
  | text
  /-- The wide form of a quotation mark. -/
  | wide
  deriving DecidableEq, Repr

/-- The text after a character: what it starts with, and the selectors in front of that. -/
structure After where
  picture : Bool
  text : Bool
  wide : Bool
  start : Start
  deriving DecidableEq, Repr

/-- A start with no selector in front of it. -/
def Start.bare (start : Start) : After :=
  ⟨false, false, false, start⟩

/-- A selector in front of a text. Several of them count only in front of a ligature. A picture
that is selected can be joined to others; to anything else there is only the selector. -/
def After.select (after : After) (s : Selector) : After :=
  match s, after.start with
  | .picture, .ending _ _ => { after with picture := true }
  | .text, .ending _ _ => { after with text := true }
  | .wide, .ending _ _ => { after with wide := true }
  | .picture, .joiner => ⟨true, false, false, .joiner⟩
  | .picture, .keycap => ⟨true, false, false, .keycap⟩
  | .picture, _ => ⟨true, false, false, .plain⟩
  | .text, _ => ⟨false, true, false, .plain⟩
  | .wide, _ => ⟨false, false, true, .plain⟩

/-- What is left when the selector for a picture has had no effect. -/
def After.withoutPicture (after : After) : After :=
  match after.start with
  | .ending _ _ => { after with picture := false }
  | _ => Start.plain.bare

/-! ## Classes of characters -/

/-- The joiner. -/
def joiner : Char := Char.ofNat 0x200D

/-- The black flag, which a flag made of tags starts with. -/
def blackFlag : Char := Char.ofNat 0x1F3F4

/-- The selector that a character is. -/
def selector? (c : Char) : Option Selector :=
  if c.toNat = 0xFE0F then some .picture
  else if c.toNat = 0xFE0E then some .text
  else if c.toNat = 0xFE01 then some .wide
  else none

/-- Whether a character can be turned into text: a picture that can be selected, unless it is an
enclosed ideograph. -/
def canBeText (c : Char) : Bool :=
  isSelectable c && isPicture c && !(decide (0x1F200 ≤ c.toNat) && decide (c.toNat ≤ 0x1F2FF))

/-- The quotation marks that have a wide form. -/
def canBeWide (c : Char) : Bool :=
  c.toNat = 0x2018 || c.toNat = 0x2019 || c.toNat = 0x201C || c.toNat = 0x201D

/-- The letters that stand for regions. Two of them show a flag. -/
def isRegional (c : Char) : Bool :=
  decide (0x1F1E6 ≤ c.toNat) && decide (c.toNat ≤ 0x1F1FF)

/-- The letters among the tags. -/
def isTagLetter (c : Char) : Bool :=
  decide (0xE0061 ≤ c.toNat) && decide (c.toNat ≤ 0xE007A)

/-- The digits among the tags. -/
def isTagDigit (c : Char) : Bool :=
  decide (0xE0030 ≤ c.toNat) && decide (c.toNat ≤ 0xE0039)

/-- Whether a mark may stand inside an Arabic ligature. -/
def isTransparent (c : Char) : Bool :=
  decide (ofChar c = 0) && !Ending.separatingRanges.holds c

/-! ## Signs -/

/-- What a character starts. -/
def startOf (c : Char) : Start :=
  if isTone c then .tone
  else if isRegional c then .region
  else if isPicture c then .picture
  else
    match Ending.ofChar? c, Stroke.ofChar? c with
    | some e, _ => .ending e false
    | none, some s => .stroke s
    | none, none => .plain

/-- What stands before pictures that are joined. -/
def beforeJoiner? (c : Char) : Option (Int × Start) :=
  if c.toNat = 0x20E3 then some (0, .keycap)
  else if c.toNat = 0xE007F then some (0, .tagLetters 0)
  else if isRegional c then some (1, .joinedRegion)
  else if isTone c then some (0, .tone)
  else if isPicture c then some (0, .picture)
  else none

/-- A letter or a digit of a flag made of tags, or the black flag itself. There are at least three
tags, at most six letters, and exactly three digits if there are any. -/
def beforeTags? (c : Char) : Start → Option (Int × Start)
  | .tagLetters n =>
    if isTagLetter c && decide (n < 6) then some (0, .tagLetters (n + 1))
    else if isTagDigit c && decide (n < 5) then some (0, .tagDigits 1)
    else if c = blackFlag ∧ 3 ≤ n then some (0, .picture)
    else none
  | .tagDigits n =>
    if isTagDigit c && decide (n < 3) then some (0, .tagDigits (n + 1))
    else if c = blackFlag ∧ 3 ≤ n then some (0, .picture)
    else none
  | _ => none

/-- A letter, a mark or a joiner inside a ligature. -/
def beforeEnding? (c : Char) (e : Ending) (joined : Bool) : Option (Int × Start) :=
  if e = .alef then
    if isTransparent c then some (0, .ending e false)
    else (e.extend? false c).map fun (columns, _) => (columns, .plain)
  else if c = joiner then some (0, .ending e true)
  else if Ending.ignorableRanges.holds c then some (0, .ending e joined)
  else (e.extend? joined c).map fun (columns, next) =>
    (columns, match next with
      | some e => .ending e false
      | none => .plain)

/-- The columns of a character as part of a sign, if what follows makes it one, and what the text
then starts with. -/
def inSign? (c : Char) (start : Start) : Option (Int × Start) :=
  match start with
  | .plain | .lineFeed | .keycap => none
  | .tone =>
    if isFigure c then some (0, .picture)
    else if c = joiner then some (0, .joiner)
    else none
  | .picture => if c = joiner then some (0, .joiner) else none
  | .joiner => beforeJoiner? c
  | .region => if isRegional c then some (1, .regions) else none
  | .regions =>
    if isRegional c then some (1, .regions)
    else if c = joiner then some (0, .joiner)
    else none
  | .joinedRegion => if isRegional c then some (-1, .joinedEven) else none
  | .joinedOdd =>
    if isRegional c then some (-1, .joinedEven)
    else if c = joiner then some (0, .joiner)
    else none
  | .joinedEven =>
    if isRegional c then some (3, .joinedOdd)
    else if c = joiner then some (0, .joiner)
    else none
  | .tagLetters _ | .tagDigits _ => beforeTags? c start
  | .ending e joined => beforeEnding? c e joined
  | .stroke s => (s.extend? c).map fun (columns, next) =>
    (columns, match next with
      | some s => .stroke s
      | none => .plain)

/-! ## Measuring -/

/-- The columns of a control or of another of the first characters, and what it starts. -/
def measureLow (c : Char) (start : Start) : Int × After :=
  if c = '\n' then (1, Start.lineFeed.bare)
  else if c = '\r' ∧ start = .lineFeed then (0, Start.plain.bare)
  else (1, Start.plain.bare)

/-- The columns of a character that no selector for a picture has turned into one, given what
follows it, and the text that it starts. -/
def measureUnselected (c : Char) (after : After) : Int × After :=
  if c.toNat ≤ 0xA0 then measureLow c after.start
  else
    match selector? c with
    | some s => (0, after.select s)
    | none =>
      if after.text && canBeText c then (1, Start.plain.bare)
      else if after.wide && canBeWide c then (2, Start.plain.bare)
      else
        match inSign? c after.start with
        | some (columns, start) => (columns, start.bare)
        | none => (Int.ofNat (ofChar c), (startOf c).bare)

/-- The columns of a character, given what follows it, and the text that it starts. -/
def measure (c : Char) (after : After) : Int × After :=
  if after.picture then
    if isSelectable c then
      (if after.start = .joiner ∨ after.start = .keycap then 0 else 2, Start.picture.bare)
    else measureUnselected c after.withoutPicture
  else measureUnselected c after

/-- The columns of a text, and what it is to a character before it. -/
def measureAll : List Char → Int × After
  | [] => (0, Start.plain.bare)
  | c :: rest =>
    let (columns, after) := measureAll rest
    let (more, before) := measure c after
    (columns + more, before)

/-- The columns of a string. -/
def count (s : String) : Nat :=
  (measureAll s.toList).1.toNat

end PlanViewer.Text.Columns
