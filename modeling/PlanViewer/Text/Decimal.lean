import PlanViewer.Text.Blank

/-!
# Decimal numbers

Writing: the digits of a number without leading zeros, or exactly so many digits with zeros in
front. Reading: two grammars for 64-bit signed integers. The strict one takes the whole text and
names what is wrong with it; the lenient one takes the number that a text begins with and forgets
the rest.
-/

namespace PlanViewer.Text.Decimal

/-- Whether a character is an ASCII digit. -/
def isDigit (c : Char) : Bool :=
  decide (0x30 ≤ c.toNat) && decide (c.toNat ≤ 0x39)

/-- The value of an ASCII digit. -/
def digitValue (c : Char) : Nat :=
  c.toNat - 0x30

/-- The value of a run of digits. -/
def value (ds : List Char) : Nat :=
  ds.foldl (fun n d => n * 10 + digitValue d) 0

/-- The digits of a number, without leading zeros. -/
def digits (n : Nat) : List Char :=
  Nat.toDigits 10 n

/-- The last `width` digits of a number. -/
def fixed : (width : Nat) → Nat → List Char
  | 0, _ => []
  | width + 1, n => fixed width (n / 10) ++ [Char.ofNat (0x30 + n % 10)]

/-- The text of an integer: a minus sign for a negative one, then its digits. -/
def integer (n : Int) : List Char :=
  if n < 0 then '-' :: digits n.natAbs else digits n.natAbs

/-- The text of a 64-bit integer. -/
def ofInt64 (n : Int64) : String :=
  String.ofList (integer n.toInt)

/-- The 64-bit integer of that value, if there is one. -/
def int64? (n : Int) : Option Int64 :=
  if Int64.minValue.toInt ≤ n ∧ n ≤ Int64.maxValue.toInt then some (Int64.ofInt n) else none

/-! ## The strict grammar -/

/-- What is wrong with a text that is no 64-bit integer. -/
inductive Fault where
  | empty
  | invalidDigit
  | tooLarge
  | tooSmall
  deriving DecidableEq, Repr

/-- The wording of a fault. -/
def Fault.message : Fault → String
  | .empty => "cannot parse integer from empty string"
  | .invalidDigit => "invalid digit found in string"
  | .tooLarge => "number too large to fit in target type"
  | .tooSmall => "number too small to fit in target type"

/-- The value of a text of digits only, continued from `acc` and at most `limit`. The first
character that is no digit, or that takes the value over the limit, decides the fault. -/
def magnitude (limit : Nat) (tooFar : Fault) (acc : Nat) : List Char → Except Fault Nat
  | [] => .ok acc
  | c :: rest =>
    if isDigit c then
      let next := acc * 10 + digitValue c
      if next ≤ limit then magnitude limit tooFar next rest else .error tooFar
    else .error .invalidDigit

/-- The value of a text of digits after an optional sign. -/
def signed : List Char → Except Fault Int
  | [] => .error .empty
  | ['+'] => .error .invalidDigit
  | ['-'] => .error .invalidDigit
  | '+' :: ds => (magnitude Int64.maxValue.toInt.toNat .tooLarge 0 ds).map Int.ofNat
  | '-' :: ds => (magnitude (-Int64.minValue.toInt).toNat .tooSmall 0 ds).map fun n => -Int.ofNat n
  | ds => (magnitude Int64.maxValue.toInt.toNat .tooLarge 0 ds).map Int.ofNat

/-- Reads a whole text as a 64-bit integer: an optional sign, then digits and nothing else. -/
def readInt64 (s : String) : Except Fault Int64 :=
  (signed s.toList).map Int64.ofInt

/-! ## The lenient grammar -/

/-- An optional sign in front of a number: whether it is a minus sign, and what follows it. -/
def splitSign : List Char → Bool × List Char
  | '-' :: rest => (true, rest)
  | '+' :: rest => (false, rest)
  | cs => (false, cs)

/-- The integer that a text begins with: white space, an optional sign, and as many digits as
there are. There is none without a digit. The digits are read on their own before the sign is
applied, so the least integer is out of reach. -/
def leadingInt? (s : String) : Option Int64 :=
  let (negative, rest) := splitSign (trimStart s.toList)
  let ds := rest.takeWhile isDigit
  if ds = [] then none
  else (readInt64 (String.ofList ds)).toOption.map fun n => if negative then -n else n

end PlanViewer.Text.Decimal
