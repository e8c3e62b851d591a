import Mathlib.Data.List.Basic
import PlanViewer.Proofs.JsonText
import PlanViewer.Proofs.Timestamps

/-!
# Written integers are read back from JSON

A JSON number has no leading zeros, and one that is wanted has to be within the range of floats. The
digits of a 64-bit integer meet both: the first of them is zero only for zero itself, and no digit
takes the significand beyond 64 bits, so that the float next to it is far within the range. Read as
an integer the number is the one that was written, over the whole range of 64-bit integers.
-/

namespace PlanViewer

open Text Text.Decimal

/-! ## Leading digits -/

namespace Text.Decimal

theorem head?_digits_ne_zero {n : Nat} (hn : 0 < n) : (digits n).head? ≠ some '0' := by
  -- all digits but the last are the digits of a tenth of the number
  induction n using Nat.strongRecOn with
  | ind n ih =>
    unfold digits
    by_cases hlt : n < 10
    · rw [Nat.toDigits_of_lt_base hlt, List.head?_cons, Ne, Option.some.injEq]
      have hdigit : ∀ d, d < 10 → 0 < d → Nat.digitChar d ≠ '0' := by decide
      exact hdigit n hlt hn
    · rw [Nat.toDigits_of_base_le (by omega) (by omega),
        List.head?_append_of_ne_nil _ Nat.toDigits_ne_nil]
      exact ih (n / 10) (by omega) (by omega)

end Text.Decimal

namespace Json

/-! ## The range of floats -/

/-- The significand of digits that fit is their value. -/
theorem foldl_scaled (ds : List Char) (acc : Nat)
    (h : ds.foldl (fun n d => n * 10 + digitValue d) acc ≤ maxSignificand) :
    ds.foldl (fun s d =>
      let next := s.significand * 10 + digitValue d
      if s.exponent = 0 ∧ next ≤ maxSignificand then ⟨next, 0⟩
      else ⟨s.significand, s.exponent + 1⟩) (⟨acc, 0⟩ : Scaled) =
        ⟨ds.foldl (fun n d => n * 10 + digitValue d) acc, 0⟩ := by
  induction ds generalizing acc with
  | nil => rfl
  | cons d ds ih =>
    have hnext := le_foldl_value ds (acc * 10 + digitValue d)
    simp only [List.foldl_cons] at h ⊢
    have hfits : acc * 10 + digitValue d ≤ maxSignificand := Nat.le_trans hnext h
    simp only [hfits, and_self, if_true]
    exact ih _ h

theorem ofWhole_eq {ds : List Char} (h : value ds ≤ maxSignificand) :
    Scaled.ofWhole ds = ⟨value ds, 0⟩ :=
  foldl_scaled ds 0 h

/-- Rounding goes to a neighbour, and the step between neighbours is at most the number itself. -/
theorem roundToFloat_le (n : Nat) : roundToFloat n ≤ 2 * n := by
  unfold roundToFloat
  split
  · omega
  · next hlarge =>
    have hpos : n ≠ 0 := by
      rintro rfl
      exact hlarge (by decide)
    have hunit : Nat.pow 2 (n.log2 - 52) ≤ n :=
      Nat.le_trans (Nat.pow_le_pow_right (by omega) (Nat.sub_le _ _)) (Nat.log2_self_le hpos)
    have hquotient : n / Nat.pow 2 (n.log2 - 52) * Nat.pow 2 (n.log2 - 52) ≤ n :=
      Nat.div_mul_le_self _ _
    dsimp only
    split
    · rw [Nat.succ_mul]
      omega
    · omega

/-- The digits of a number of 64 bits stand for a float. -/
theorem isOutOfRange_eq_false {ds : List Char} (h : value ds ≤ maxSignificand) (negative : Bool) :
    Numeral.isOutOfRange ⟨negative, ds, [], none⟩ = false := by
  have hscaled : Numeral.scaled ⟨negative, ds, [], none⟩ = ⟨value ds, 0⟩ := by
    show Scaled.mk _ _ = _
    rw [ofWhole_eq h]
    rfl
  have hone : roundToFloat (Nat.pow 10 (0 : Int).toNat) = 1 := by decide
  have hpower : ¬ maxPower < 0 := by decide
  have hlimit : 2 * maxSignificand < floatLimit := by decide +kernel
  have hfloat : ¬ floatLimit ≤ roundToFloat (value ds) := by
    have hround := roundToFloat_le (value ds)
    omega
  unfold Numeral.isOutOfRange
  rw [hscaled]
  dsimp only
  rw [hone, Nat.mul_one]
  simp [hpower, hfloat]

/-! ## Numbers -/

theorem readWhole_digits (onEnd : Problem) (n : Nat) {rest : List Char}
    (hrest : EndsNumber rest) :
    readWhole onEnd (digits n ++ rest) = .ok (digits n, rest) := by
  rcases Nat.eq_zero_or_pos n with rfl | hpos
  · -- after a zero no digit may follow
    have hzero : digits 0 = ['0'] := by decide
    rw [hzero, List.singleton_append]
    unfold readWhole
    cases rest with
    | nil => rfl
    | cons d rest =>
      have hd : isDigit d = false := hrest d rfl
      simp [hd]
  · have hds : ∀ c ∈ digits n, isDigit c = true := fun c hc => isDigit_of_mem_digits hc
    have hhead := head?_digits_ne_zero hpos
    rcases hdigits : digits n with _ | ⟨c, cs⟩
    · exact absurd hdigits (digits_ne_nil n)
    · rw [hdigits] at hds hhead
      have hc : c ≠ '0' := by simpa using hhead
      have htail : ∀ d ∈ cs, isDigit d = true := fun d hd => hds d (List.mem_cons_of_mem c hd)
      unfold readWhole
      rw [List.cons_append]
      dsimp only
      rw [if_neg hc, if_pos (hds c List.mem_cons_self), takeWhile_isDigit htail hrest,
        dropWhile_isDigit htail hrest]

theorem endsNumber_of_followsValue {rest : List Char} (h : FollowsValue rest) :
    EndsNumber rest := by
  intro c hc
  rcases h with h | h <;>
  · rw [h, Option.some.injEq] at hc
    subst hc
    decide

/-- Digits in an object are a whole number, which ends with them. -/
theorem readNumber_digits {n : Nat} (hn : n ≤ maxSignificand) (negative : Bool) {rest : List Char}
    (hrest : FollowsValue rest) :
    readNumber negative (digits n ++ rest) = .ok (⟨negative, digits n, [], none⟩, rest) := by
  have hwhole := readWhole_digits .truncated n (endsNumber_of_followsValue hrest)
  have hfraction : readFractionPart .truncated rest = .ok ([], rest) := by
    unfold readFractionPart
    split
    · rcases hrest with h | h <;> simp at h
    · rfl
  have hexponent : readExponent .truncated rest = .ok (none, rest) := by
    rcases rest with _ | ⟨c, rest⟩
    · rfl
    · unfold readExponent
      dsimp only
      rw [if_neg]
      rcases hrest with h | h <;> simp at h <;> subst h <;> decide
  have hrange : Numeral.isOutOfRange ⟨negative, digits n, [], none⟩ = false :=
    isOutOfRange_eq_false (by rwa [value_digits]) negative
  have hnumeral : readNumeral .truncated negative (digits n ++ rest) =
      .ok (⟨negative, digits n, [], none⟩, rest) := by
    unfold readNumeral
    simp only [bind, Except.bind, hwhole, hfraction, hexponent]
    rfl
  unfold readNumber
  simp only [bind, Except.bind, hnumeral, hrange]
  rfl

/-- The sign and the digits of a 64-bit integer stand for it. -/
theorem integerOf_digits (n : Int64) (rest : List Char) :
    integerOf (⟨decide (n.toInt < 0), digits n.toInt.natAbs, [], none⟩, rest) = .ok (n, rest) := by
  have hlow := n.le_toInt
  have hhigh := n.toInt_lt
  have hfits : int64? n.toInt = some n := by
    rw [int64?, Int64.toInt_minValue, Int64.toInt_maxValue, if_pos (by omega), Int64.ofInt_toInt]
  have hinteger : Numeral.integer? ⟨decide (n.toInt < 0), digits n.toInt.natAbs, [], none⟩ =
      some n.toInt := by
    unfold Numeral.integer?
    rw [value_digits]
    by_cases hneg : n.toInt < 0
    · have habs : -Int.ofNat n.toInt.natAbs = n.toInt := by
        rw [Int.ofNat_eq_natCast]
        omega
      rw [if_pos ⟨rfl, rfl⟩, decide_eq_true hneg, if_pos rfl, if_neg (by omega), habs]
    · have habs : Int.ofNat n.toInt.natAbs = n.toInt := by
        rw [Int.ofNat_eq_natCast]
        omega
      rw [if_pos ⟨rfl, rfl⟩, decide_eq_false hneg, if_neg Bool.false_ne_true, habs]
  unfold integerOf
  rw [hinteger, Option.bind_some, hfits]

theorem isSpace_of_isDigit {c : Char} (hc : isDigit c = true) : isSpace c = false := by
  rw [← Bool.not_eq_true, isSpace]
  intro hspace
  simp only [Bool.or_eq_true, decide_eq_true_eq] at hspace
  rcases hspace with ((rfl | rfl) | rfl) | rfl <;> exact absurd hc (by decide)

/-- **A written 64-bit integer is read back** in an object. -/
theorem int64Value_integer (n : Int64) {rest : List Char} (hrest : FollowsValue rest) :
    int64Value (' ' :: (integer n.toInt ++ rest)) = .ok (n, rest) := by
  have hsize : n.toInt.natAbs ≤ maxSignificand := by
    have hmax : maxSignificand = 2 ^ 64 - 1 := rfl
    have hlow := n.le_toInt
    have hhigh := n.toInt_lt
    omega
  have hread := readNumber_digits hsize (decide (n.toInt < 0)) hrest
  have hinteger := integerOf_digits n rest
  rw [int64Value, skipSpace_cons_of_isSpace (by decide)]
  unfold integer
  by_cases hneg : n.toInt < 0
  · rw [decide_eq_true hneg] at hread hinteger
    rw [if_pos hneg, List.cons_append, skipSpace_cons (by decide)]
    dsimp only
    rw [if_pos rfl, hread]
    exact hinteger
  · rw [decide_eq_false hneg] at hread hinteger
    rw [if_neg hneg]
    rcases hdigits : digits n.toInt.natAbs with _ | ⟨c, cs⟩
    · exact absurd hdigits (digits_ne_nil _)
    · have hc : isDigit c = true := by
        apply isDigit_of_mem_digits
        rw [hdigits]
        exact List.mem_cons_self
      have hminus : c ≠ '-' := by
        rintro rfl
        exact absurd hc (by decide)
      rw [hdigits] at hread hinteger
      rw [List.cons_append] at hread ⊢
      rw [skipSpace_cons (isSpace_of_isDigit hc)]
      dsimp only
      rw [if_neg hminus, if_pos hc, hread]
      exact hinteger

end Json

end PlanViewer
