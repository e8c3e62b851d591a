/-!
# Hexadecimal digits

Digits are read in either case. They are written in a fixed number of places, in upper or lower
case as the format asks.
-/

namespace PlanViewer.Text.Hex

/-- The value of a hexadecimal digit, given its code point. -/
def value? (code : Nat) : Option Nat :=
  if 0x30 ≤ code ∧ code ≤ 0x39 then some (code - 0x30)
  else if 0x41 ≤ code ∧ code ≤ 0x46 then some (code - 0x37)
  else if 0x61 ≤ code ∧ code ≤ 0x66 then some (code - 0x57)
  else none

theorem value?_lt {code d : Nat} (h : value? code = some d) : d < 16 := by
  unfold value? at h
  split at h
  · injection h with h; omega
  · split at h
    · injection h with h; omega
    · split at h
      · injection h with h; omega
      · cases h

/-- The value of a run of digits, given their code points, continued from `acc`. -/
def read? (acc : Nat) : List Nat → Option Nat
  | [] => some acc
  | code :: rest => (value? code).bind fun d => read? (acc * 16 + d) rest

/-- The lower-case digit of a value below sixteen. -/
def lowerDigit (d : Nat) : Char :=
  Char.ofNat (if d < 10 then 0x30 + d else 0x57 + d)

/-- The upper-case digit of a value below sixteen. -/
def upperDigit (d : Nat) : Char :=
  Char.ofNat (if d < 10 then 0x30 + d else 0x37 + d)

/-- The last `width` hexadecimal digits of a number, by the given digits. -/
def write (digit : Nat → Char) : (width : Nat) → Nat → List Char
  | 0, _ => []
  | width + 1, n => write digit width (n / 16) ++ [digit (n % 16)]

end PlanViewer.Text.Hex
