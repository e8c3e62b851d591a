import PlanViewer.Json.Lexeme

/-!
# The magnitude of a number

A number that is wanted has to be within the range of 64-bit floats. The written digits are first
gathered into a 64-bit significand, as far as they fit, and a power of ten; the number is their
product, each rounded to a float.
-/

namespace PlanViewer.Json

open Text.Decimal

/-- The greatest significand. -/
def maxSignificand : Nat := Nat.pow 2 64 - 1

/-- A significand and a power of ten. -/
structure Scaled where
  significand : Nat
  exponent : Int
  deriving DecidableEq, Repr

/-- The digits before the point. From the first one that does not fit, each is a factor ten. -/
def Scaled.ofWhole (ds : List Char) : Scaled :=
  ds.foldl (fun s d =>
    let next := s.significand * 10 + digitValue d
    if s.exponent = 0 ∧ next ≤ maxSignificand then ⟨next, 0⟩
    else ⟨s.significand, s.exponent + 1⟩) ⟨0, 0⟩

/-- The digits after the point. From the first one that does not fit, they play no part. -/
def Scaled.withFraction (s : Scaled) : List Char → Scaled
  | [] => s
  | d :: ds =>
    let next := s.significand * 10 + digitValue d
    if next ≤ maxSignificand then Scaled.withFraction ⟨next, s.exponent - 1⟩ ds else s

/-- The power of ten that an exponent adds. -/
def exponentValue : Option (Bool × List Char) → Int
  | none => 0
  | some (true, ds) => -Int.ofNat (value ds)
  | some (false, ds) => Int.ofNat (value ds)

/-- The significand and power of ten of a number. -/
def Numeral.scaled (n : Numeral) : Scaled :=
  let s := (Scaled.ofWhole n.whole).withFraction n.fraction
  ⟨s.significand, s.exponent + exponentValue n.exponent⟩

/-- A number rounded to 53 binary digits, a half to the even neighbour. -/
def roundToFloat (n : Nat) : Nat :=
  if n < Nat.pow 2 53 then n
  else
    let unit := Nat.pow 2 (n.log2 - 52)
    let quotient := n / unit
    let rest := 2 * (n % unit)
    (if unit < rest ∨ unit = rest ∧ quotient % 2 = 1 then quotient + 1 else quotient) * unit

/-- The least product that rounds beyond every float. -/
def floatLimit : Nat := Nat.pow 2 1024 - Nat.pow 2 970

/-- The greatest power of ten that is a float. -/
def maxPower : Int := 308

/-- Whether a number is beyond the range of floats. -/
def Numeral.isOutOfRange (n : Numeral) : Bool :=
  let s := n.scaled
  decide (s.significand ≠ 0) &&
    (decide (maxPower < s.exponent) ||
      decide (0 ≤ s.exponent ∧
        floatLimit ≤ roundToFloat s.significand * roundToFloat (Nat.pow 10 s.exponent.toNat)))

/-- The value of a number written as an integer. A minus sign before zero makes it none. -/
def Numeral.integer? (n : Numeral) : Option Int :=
  if n.fraction = [] ∧ n.exponent = none then
    if n.negative then
      if value n.whole = 0 then none else some (-Int.ofNat (value n.whole))
    else some (Int.ofNat (value n.whole))
  else none

/-- A number that is wanted, after its minus sign if it has one. -/
def readNumber (negative : Bool) (cs : List Char) : Except Problem (Numeral × List Char) := do
  let (numeral, rest) ← readNumeral .truncated negative cs
  if numeral.isOutOfRange then throw .malformed else return (numeral, rest)

end PlanViewer.Json
