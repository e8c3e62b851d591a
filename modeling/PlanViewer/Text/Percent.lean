import PlanViewer.Text.Hex
import PlanViewer.Text.Units16

/-!
# Percent coding of cookie values

A value travels in a cookie as ASCII letters, digits, the marks `@*_+-./`, and tokens: `%XX` for a
code unit below 256 and `%uXXXX` for any other. Coding works on 16-bit code units, so a character
beyond the first plane becomes two tokens.

Reading replaces every token by its unit, digits in either case, and leaves all else as it is: a
percent sign that opens no token stands for itself.
-/

namespace PlanViewer.Text.Percent

/-- The marks, besides letters and digits, that are written as they are. -/
def marks : List Char := ['@', '*', '_', '+', '-', '.', '/']

/-- Whether a character is written as it is. -/
def isPlain (c : Char) : Bool :=
  c.isAlphanum || marks.contains c

/-- How one code unit is written. -/
def encodeUnit (u : UInt16) : List Char :=
  if u.toNat < 0x80 ∧ isPlain (Char.ofNat u.toNat) then [Char.ofNat u.toNat]
  else if u.toNat < 0x100 then '%' :: Hex.write Hex.upperDigit 2 u.toNat
  else '%' :: 'u' :: Hex.write Hex.upperDigit 4 u.toNat

/-- The written form of a text. -/
def encode (cs : List Char) : List Char :=
  (Units16.encode cs).flatMap encodeUnit

/-- The code unit of the percent sign. -/
def percent : UInt16 := 0x25

/-- The code unit of the letter that announces four digits. -/
def wide : UInt16 := 0x75

/-- The value of the first `width` units, if all of them are there and are hexadecimal digits. -/
def digits? (width : Nat) (units : List UInt16) : Option Nat :=
  if width ≤ units.length then Hex.read? 0 ((units.take width).map UInt16.toNat) else none

/-- The token that follows a percent sign: its code, and how many units it takes up after the
sign. -/
def token? (units : List UInt16) : Option (UInt16 × Nat) :=
  if units.head? = some wide then
    (digits? 4 (units.drop 1)).map fun code => (UInt16.ofNat code, 5)
  else
    (digits? 2 units).map fun code => (UInt16.ofNat code, 2)

/-- The units of a written text with every token replaced. The first `skip` units belong to a
token that has been replaced already. -/
def decodeFrom : (skip : Nat) → List UInt16 → List UInt16
  | _, [] => []
  | skip + 1, _ :: rest => decodeFrom skip rest
  | 0, u :: rest =>
    if u = percent then
      match token? rest with
      | some (code, width) => code :: decodeFrom width rest
      | none => u :: decodeFrom 0 rest
    else u :: decodeFrom 0 rest

/-- The units of a written text with every token replaced by its code. -/
def decodeUnits (units : List UInt16) : List UInt16 :=
  decodeFrom 0 units

/-- The text that a written form stands for. -/
def decode (cs : List Char) : List Char :=
  Units16.decode (decodeUnits (Units16.encode cs))

/-- The written form of a string. -/
def escape (s : String) : String :=
  String.ofList (encode s.toList)

/-- The string that a written form stands for. -/
def unescape (s : String) : String :=
  String.ofList (decode s.toList)

end PlanViewer.Text.Percent
