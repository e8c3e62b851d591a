import PlanViewer.Proofs.Calendar
import PlanViewer.Proofs.Digits
import PlanViewer.Time.Timestamp

/-!
# Timestamps are read back as they are written

The text of an instant is read back to that instant, over the whole range of instants: years of
any sign and length, fractions of any precision and leap seconds included. Reading is lenient and
takes as many digits as it may, so every statement about a field says what may follow it.
-/

namespace PlanViewer.Timestamp

open Text Text.Decimal

/-! ## Fields -/

theorem readNumber_append {width : Nat} {ds rest : List Char} (hds : ∀ c ∈ ds, isDigit c = true)
    (hne : ds ≠ []) (hwidth : ds.length ≤ width) (hrest : EndsNumber rest) :
    readNumber width (ds ++ rest) = some (value ds, rest) := by
  rw [readNumber, takeWhile_isDigit hds hrest, List.take_of_length_le hwidth, if_neg hne,
    List.drop_left]

theorem readField_fixed {n : Nat} (hn : n < 100) {rest : List Char} (hrest : EndsNumber rest) :
    readField (fixed 2 n ++ rest) = some (n, rest) := by
  have hds : ∀ c ∈ fixed 2 n, isDigit c = true := fun c hc => isDigit_of_mem_fixed hc
  have hne : fixed 2 n ≠ [] := fixed_ne_nil (by omega) n
  rw [readField, trimStart_digits hds hne, readNumber_append hds hne (by simp) hrest,
    value_fixed 2 n hn]

theorem readMark_self {mark : Char} (hmark : isBlank mark = false) (rest : List Char) :
    readMark mark (mark :: rest) = some rest := by
  rw [readMark, trimStart_cons hmark]
  simp

theorem readYear_digits {ds rest : List Char} (hds : ∀ c ∈ ds, isDigit c = true) (hne : ds ≠ [])
    (hwidth : ds.length ≤ 4) (hrest : EndsNumber rest) :
    readYear (ds ++ rest) = some (Int.ofNat (value ds), rest) := by
  rw [readYear, trimStart_digits hds hne]
  split
  · next heq => exact absurd heq (head_ne_of_not_isDigit hds hne (by decide))
  · next heq => exact absurd heq (head_ne_of_not_isDigit hds hne (by decide))
  · rw [readNumber_append hds hne hwidth hrest]
    rfl

/-- Behind a sign a year may be as long as the text. -/
theorem readNumber_whole {ds rest : List Char} (hds : ∀ c ∈ ds, isDigit c = true) (hne : ds ≠ [])
    (hrest : EndsNumber rest) :
    readNumber (ds ++ rest).length (ds ++ rest) = some (value ds, rest) := by
  have hwidth : ds.length ≤ (ds ++ rest).length := by simp
  exact readNumber_append hds hne hwidth hrest

theorem readYear_minus {ds rest : List Char} (hds : ∀ c ∈ ds, isDigit c = true) (hne : ds ≠ [])
    (hrest : EndsNumber rest) :
    readYear ('-' :: (ds ++ rest)) = some (-Int.ofNat (value ds), rest) := by
  rw [readYear, trimStart_cons (by decide)]
  show (readNumber (ds ++ rest).length (ds ++ rest)).map _ = _
  rw [readNumber_whole hds hne hrest]
  rfl

theorem readYear_plus {ds rest : List Char} (hds : ∀ c ∈ ds, isDigit c = true) (hne : ds ≠ [])
    (hrest : EndsNumber rest) :
    readYear ('+' :: (ds ++ rest)) = some (Int.ofNat (value ds), rest) := by
  rw [readYear, trimStart_cons (by decide)]
  show (readNumber (ds ++ rest).length (ds ++ rest)).map _ = _
  rw [readNumber_whole hds hne hrest]
  rfl

/-- The digits of a year without its sign. -/
def yearDigits (year : Int) : List Char :=
  if year.natAbs ≤ 9999 then fixed 4 year.natAbs else digits year.natAbs

theorem isDigit_of_mem_yearDigits {year : Int} {c : Char} (hc : c ∈ yearDigits year) :
    isDigit c = true := by
  rw [yearDigits] at hc
  split at hc
  · exact isDigit_of_mem_fixed hc
  · exact isDigit_of_mem_digits hc

theorem yearDigits_ne_nil (year : Int) : yearDigits year ≠ [] := by
  rw [yearDigits]
  split
  · exact fixed_ne_nil (by omega) _
  · exact digits_ne_nil _

theorem value_yearDigits (year : Int) : value (yearDigits year) = year.natAbs := by
  rw [yearDigits]
  split
  · exact value_fixed 4 _ (by omega)
  · exact value_digits _

/-- A year is read back in front of a mark. -/
theorem readYear_yearText (year : Int) {rest : List Char} (hrest : EndsNumber rest) :
    readYear (Moment.yearText year ++ rest) = some (year, rest) := by
  have hds : ∀ c ∈ yearDigits year, isDigit c = true := fun c hc => isDigit_of_mem_yearDigits hc
  have hne := yearDigits_ne_nil year
  have hvalue : Int.ofNat (value (yearDigits year)) = year.natAbs := by rw [value_yearDigits]; rfl
  by_cases hshort : 0 ≤ year ∧ year ≤ 9999
  · have htext : Moment.yearText year = yearDigits year := by
      have hnat : year.natAbs = year.toNat := by omega
      rw [Moment.yearText, if_pos hshort, yearDigits, if_pos (by omega), hnat]
    have hwidth : (yearDigits year).length ≤ 4 := by
      rw [yearDigits, if_pos (by omega), length_fixed]
    rw [htext, readYear_digits hds hne hwidth hrest, hvalue]
    congr 2
    omega
  · by_cases hneg : year < 0
    · have htext : Moment.yearText year = '-' :: yearDigits year := by
        rw [Moment.yearText, if_neg hshort, if_pos hneg]
        rfl
      rw [htext, List.cons_append, readYear_minus hds hne hrest, hvalue]
      congr 2
      omega
    · have htext : Moment.yearText year = '+' :: yearDigits year := by
        rw [Moment.yearText, if_neg hshort, if_neg hneg]
        rfl
      rw [htext, List.cons_append, readYear_plus hds hne hrest, hvalue]
      congr 2
      omega

/-! ## Fractions -/

theorem readFraction_fixed {width n : Nat} (hpos : 0 < width) (hwidth : width ≤ 9)
    (hn : n < 10 ^ width) {rest : List Char} (hrest : EndsNumber rest) :
    readFraction ('.' :: (fixed width n ++ rest)) = some (n * 10 ^ (9 - width), rest) := by
  have hds : ∀ c ∈ fixed width n, isDigit c = true := fun c hc => isDigit_of_mem_fixed hc
  have htake : (fixed width n).take 9 = fixed width n :=
    List.take_of_length_le (by rw [length_fixed]; exact hwidth)
  simp only [readFraction]
  rw [takeWhile_isDigit hds hrest, if_neg (fixed_ne_nil hpos n), htake, value_fixed width n hn,
    List.drop_left, length_fixed]
  rfl

/-- A fraction is read back in front of the mark of universal time. -/
theorem readFraction_fractionText {nanos : Nat} (hn : nanos < 1000000000) :
    readFraction (fractionText nanos ++ ['Z']) = some (nanos, ['Z']) := by
  have hrest : EndsNumber ['Z'] := endsNumber_cons (by decide) []
  rw [fractionText]
  split
  · next hzero =>
    subst hzero
    rfl
  · split
    · next hmod =>
      have hvalue : nanos / 1000000 * 10 ^ (9 - 3) = nanos := by omega
      rw [List.cons_append, readFraction_fixed (by omega) (by omega) (by omega) hrest, hvalue]
    · split
      · next hmod =>
        have hvalue : nanos / 1000 * 10 ^ (9 - 6) = nanos := by omega
        rw [List.cons_append, readFraction_fixed (by omega) (by omega) (by omega) hrest, hvalue]
      · have hvalue : nanos * 10 ^ (9 - 9) = nanos := by omega
        rw [List.cons_append, readFraction_fixed (by omega) (by omega) (by omega) hrest, hvalue]

theorem endsNumber_fractionText (nanos : Nat) : EndsNumber (fractionText nanos ++ ['Z']) := by
  rw [fractionText]
  split
  · exact endsNumber_cons (by decide) []
  · split
    · exact endsNumber_cons (by decide) _
    · split
      · exact endsNumber_cons (by decide) _
      · exact endsNumber_cons (by decide) _

/-! ## Whole timestamps -/

theorem write_eq (t : Instant) :
    write t = Moment.yearText (Moment.ofInstant t).date.year ++
      '-' :: (fixed 2 (Moment.ofInstant t).date.month ++
      '-' :: (fixed 2 (Moment.ofInstant t).date.day ++
      'T' :: (fixed 2 (Moment.ofInstant t).hour ++
      ':' :: (fixed 2 (Moment.ofInstant t).minute ++
      ':' :: (fixed 2 (Moment.ofInstant t).second ++
      (fractionText (Moment.ofInstant t).nanos ++ ['Z'])))))) := by
  simp only [write, List.append_assoc, List.cons_append]

theorem readOffset_universal : readOffset ['Z'] = some (0, []) := by
  decide

/-- **A timestamp is read back to the instant it was written for.** -/
theorem read?_write (t : Instant) : read? (write t) = some t := by
  have hvalid := Moment.isValid_iff.mp (Moment.isValid_ofInstant t)
  obtain ⟨_, hhour, hminute, hsecond, hnanos⟩ := hvalid
  have hdate := Date.ofDayNumber_lt (Moment.dayOf t.seconds)
  have hmonth : (Moment.ofInstant t).date.month < 100 := hdate.1
  have hday : (Moment.ofInstant t).date.day < 100 := hdate.2
  have hcolon : ∀ cs, EndsNumber (':' :: cs) := endsNumber_cons (by decide)
  have hdash : ∀ cs, EndsNumber ('-' :: cs) := endsNumber_cons (by decide)
  have hT : ∀ cs, EndsNumber ('T' :: cs) := endsNumber_cons (by decide)
  have hhour' : (Moment.ofInstant t).hour < 100 := by omega
  have hminute' : (Moment.ofInstant t).minute < 100 := by omega
  have hsecond' : (Moment.ofInstant t).second < 100 := by omega
  have hmark : ∀ cs, readMark '-' ('-' :: cs) = some cs := readMark_self (by decide)
  have hmark' : ∀ cs, readMark ':' (':' :: cs) = some cs := readMark_self (by decide)
  have hdivider : ∀ cs, readDivider ('T' :: cs) = some cs := fun _ => rfl
  -- field by field, each in front of the mark that ends it
  rw [write_eq, read?, readYear_yearText _ (hdash _)]
  dsimp only [Option.bind_eq_bind, Option.bind_some]
  rw [hmark, Option.bind_some, readField_fixed hmonth (hdash _), Option.bind_some]
  dsimp only
  rw [hmark, Option.bind_some, readField_fixed hday (hT _), Option.bind_some]
  dsimp only
  rw [hdivider, Option.bind_some, readField_fixed hhour' (hcolon _), Option.bind_some]
  dsimp only
  rw [hmark', Option.bind_some, readField_fixed hminute' (hcolon _), Option.bind_some]
  dsimp only
  rw [hmark', Option.bind_some, readField_fixed hsecond' (endsNumber_fractionText _),
    Option.bind_some]
  dsimp only
  rw [readFraction_fractionText hnanos, Option.bind_some]
  dsimp only
  rw [readOffset_universal, Option.bind_some]
  exact Moment.toInstant?_ofInstant t

end PlanViewer.Timestamp
