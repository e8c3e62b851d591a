import Mathlib.Tactic.Ring
import PlanViewer.Proofs.TextParts
import PlanViewer.Text.Decimal
import PlanViewer.Text.Hex

/-!
# Digits are read back as they are written

Both number systems have a writer of a fixed number of places and a reader of a run of digits. The
statements here are about one run of digits: what it is worth, how long it is, and that it consists
of digits only. What may follow a run is the business of the formats that use it.

The readers of 64-bit integers stop at the digit that takes the value beyond a limit. That refuses
exactly the runs that are worth more than the limit, however long they are.
-/

namespace PlanViewer.Text

/-! ## Hexadecimal digits -/

namespace Hex

/-- Digits that reading takes for the values they are written for. -/
def IsReadable (digit : Nat → Char) : Prop :=
  ∀ d, d < 16 → value? (digit d).toNat = some d

theorem isReadable_upperDigit : IsReadable upperDigit := by
  unfold IsReadable
  decide

theorem isReadable_lowerDigit : IsReadable lowerDigit := by
  unfold IsReadable
  decide

@[simp]
theorem length_write (digit : Nat → Char) (width n : Nat) :
    (write digit width n).length = width := by
  induction width generalizing n with
  | zero => rfl
  | succ width ih => rw [write, List.length_append, ih, List.length_singleton]

theorem read?_append (acc : Nat) (xs ys : List Nat) :
    read? acc (xs ++ ys) = (read? acc xs).bind fun n => read? n ys := by
  induction xs generalizing acc with
  | nil => rfl
  | cons x xs ih =>
    simp only [List.cons_append, read?]
    cases value? x with
    | none => rfl
    | some d => exact ih (acc * 16 + d)

/-- A number that fits the width is read back. -/
theorem read?_write {digit : Nat → Char} (hd : IsReadable digit) (width n acc : Nat)
    (hn : n < 16 ^ width) :
    read? acc ((write digit width n).map Char.toNat) = some (acc * 16 ^ width + n) := by
  induction width generalizing n with
  | zero =>
    have hn0 : n = 0 := by simpa using hn
    subst hn0
    simp [write, read?]
  | succ width ih =>
    have hhead : n / 16 < 16 ^ width := by
      rw [pow_succ] at hn
      omega
    have hlast : value? (digit (n % 16)).toNat = some (n % 16) := hd _ (by omega)
    have hsum : (acc * 16 ^ width + n / 16) * 16 + n % 16 = acc * 16 ^ (width + 1) + n := by
      rw [pow_succ, ← mul_assoc]
      omega
    rw [write, List.map_append, read?_append, ih _ hhead]
    simp only [List.map_cons, List.map_nil, Option.bind_some, read?, hlast]
    rw [hsum]

theorem mem_write {digit : Nat → Char} {width n : Nat} {c : Char} (hc : c ∈ write digit width n) :
    ∃ d, d < 16 ∧ c = digit d := by
  induction width generalizing n with
  | zero => simp [write] at hc
  | succ width ih =>
    rw [write, List.mem_append, List.mem_singleton] at hc
    rcases hc with hc | rfl
    · exact ih hc
    · exact ⟨n % 16, by omega, rfl⟩

end Hex

/-! ## Decimal digits -/

namespace Decimal

theorem isDigit_ofNat : ∀ d, d < 10 → isDigit (Char.ofNat (0x30 + d)) = true := by
  decide

theorem digitValue_ofNat : ∀ d, d < 10 → digitValue (Char.ofNat (0x30 + d)) = d := by
  decide

theorem value_concat (ds : List Char) (c : Char) :
    value (ds ++ [c]) = value ds * 10 + digitValue c := by
  rw [value, value, List.foldl_append]
  rfl

@[simp]
theorem length_fixed (width n : Nat) : (fixed width n).length = width := by
  induction width generalizing n with
  | zero => rfl
  | succ width ih => rw [fixed, List.length_append, ih, List.length_singleton]

theorem isDigit_of_mem_fixed {width n : Nat} {c : Char} (hc : c ∈ fixed width n) :
    isDigit c = true := by
  induction width generalizing n with
  | zero => simp [fixed] at hc
  | succ width ih =>
    rw [fixed, List.mem_append, List.mem_singleton] at hc
    rcases hc with hc | rfl
    · exact ih hc
    · exact isDigit_ofNat _ (by omega)

/-- A number that fits the width is worth its own digits. -/
theorem value_fixed (width n : Nat) (hn : n < 10 ^ width) : value (fixed width n) = n := by
  induction width generalizing n with
  | zero =>
    have hn0 : n = 0 := by simpa using hn
    subst hn0
    rfl
  | succ width ih =>
    have hhead : n / 10 < 10 ^ width := by
      rw [pow_succ] at hn
      omega
    rw [fixed, value_concat, ih _ hhead, digitValue_ofNat _ (by omega)]
    omega

theorem isDigit_of_mem_digits {n : Nat} {c : Char} (hc : c ∈ digits n) : isDigit c = true := by
  have h := Nat.isDigit_of_mem_toDigits (by omega) (by omega) hc
  rw [Char.isDigit, Bool.and_eq_true, decide_eq_true_eq, decide_eq_true_eq] at h
  rw [isDigit, Bool.and_eq_true, decide_eq_true_eq, decide_eq_true_eq]
  exact ⟨UInt32.le_iff_toNat_le.mp h.1, UInt32.le_iff_toNat_le.mp h.2⟩

theorem digits_ne_nil (n : Nat) : digits n ≠ [] :=
  Nat.toDigits_ne_nil

theorem value_digits (n : Nat) : value (digits n) = n := by
  have h : Nat.ofDigitChars 10 (digits n) 0 = n := Nat.ofDigitChars_ten_toDigits
  rw [Nat.ofDigitChars_eq_foldl] at h
  have hfun : ∀ (m : Nat) (c : Char), 10 * m + (c.toNat - '0'.toNat) = m * 10 + digitValue c := by
    intro m c
    rw [Nat.mul_comm]
    rfl
  simp only [hfun] at h
  exact h

/-! ## Runs of digits in a text -/

theorem fixed_ne_nil {width : Nat} (hwidth : 0 < width) (n : Nat) : fixed width n ≠ [] := by
  intro hnil
  have hlen := length_fixed width n
  rw [hnil, List.length_nil] at hlen
  omega

theorem isBlank_of_isDigit {c : Char} (hc : isDigit c = true) : isBlank c = false := by
  rw [isDigit, Bool.and_eq_true, decide_eq_true_eq, decide_eq_true_eq] at hc
  rw [← Bool.not_eq_true, isBlank, Ranges.holds_iff]
  simp only [blankRanges, List.mem_cons, List.not_mem_nil, or_false]
  rintro ⟨r, hr, hlow, hhigh⟩
  -- no range of blanks meets the range of the digits
  rcases hr with rfl | rfl | rfl | rfl | rfl | rfl | rfl | rfl | rfl | rfl <;>
    simp only at hlow hhigh <;> omega

theorem head_ne_of_not_isDigit {ds rest cs : List Char} {c : Char}
    (hds : ∀ d ∈ ds, isDigit d = true) (hne : ds ≠ []) (hc : isDigit c = false) :
    ds ++ rest ≠ c :: cs := by
  cases ds with
  | nil => exact absurd rfl hne
  | cons d ds =>
    intro heq
    rw [List.cons_append, List.cons.injEq] at heq
    have hd := hds d List.mem_cons_self
    rw [heq.1, hc] at hd
    exact Bool.false_ne_true hd

theorem trimStart_digits {ds : List Char} (hds : ∀ c ∈ ds, isDigit c = true) (hne : ds ≠ [])
    (rest : List Char) : trimStart (ds ++ rest) = ds ++ rest := by
  cases ds with
  | nil => exact absurd rfl hne
  | cons d ds => exact trimStart_cons (isBlank_of_isDigit (hds d List.mem_cons_self)) _

theorem trim_digits (n : Nat) : trim (digits n) = digits n :=
  trim_eq_self fun _ hc => isBlank_of_isDigit (isDigit_of_mem_digits hc)

/-- Whether a text goes on with something other than a digit. -/
def EndsNumber (rest : List Char) : Prop :=
  ∀ c, rest.head? = some c → isDigit c = false

theorem endsNumber_cons {c : Char} (hc : isDigit c = false) (cs : List Char) :
    EndsNumber (c :: cs) := by
  intro d hd
  rw [List.head?_cons, Option.some.injEq] at hd
  exact hd ▸ hc

theorem takeWhile_isDigit {ds rest : List Char} (hds : ∀ c ∈ ds, isDigit c = true)
    (hrest : EndsNumber rest) : (ds ++ rest).takeWhile isDigit = ds := by
  rw [List.takeWhile_append_of_pos hds]
  cases rest with
  | nil => exact List.append_nil ds
  | cons c rest =>
    have hc : isDigit c = false := hrest c rfl
    rw [List.takeWhile_cons_of_neg (by rw [hc]; exact Bool.false_ne_true), List.append_nil]

theorem dropWhile_isDigit {ds rest : List Char} (hds : ∀ c ∈ ds, isDigit c = true)
    (hrest : EndsNumber rest) : (ds ++ rest).dropWhile isDigit = rest := by
  have hparts := List.takeWhile_append_dropWhile (p := isDigit) (l := ds ++ rest)
  rw [takeWhile_isDigit hds hrest] at hparts
  exact List.append_cancel_left hparts

/-! ## Reading digits within a limit -/

/-- Further digits do not make the value smaller. -/
theorem le_foldl_value (ds : List Char) (acc : Nat) :
    acc ≤ ds.foldl (fun n d => n * 10 + digitValue d) acc := by
  induction ds generalizing acc with
  | nil => exact Nat.le_refl acc
  | cons d ds ih =>
    have hnext := ih (acc * 10 + digitValue d)
    simp only [List.foldl_cons]
    omega

/-- Digits are added up as long as they stay within the limit. -/
theorem magnitude_eq_ok_iff {limit : Nat} {tooFar : Fault} {cs : List Char} {acc n : Nat}
    (hacc : acc ≤ limit) :
    magnitude limit tooFar acc cs = .ok n ↔
      (∀ c ∈ cs, isDigit c = true) ∧
        cs.foldl (fun n d => n * 10 + digitValue d) acc = n ∧ n ≤ limit := by
  induction cs generalizing acc with
  | nil =>
    rw [magnitude, Except.ok.injEq, List.foldl_nil]
    exact ⟨fun h => ⟨fun _ hc => absurd hc List.not_mem_nil, h, h ▸ hacc⟩, fun h => h.2.1⟩
  | cons c cs ih =>
    rw [magnitude, List.foldl_cons]
    by_cases hc : isDigit c = true
    · rw [if_pos hc]
      dsimp only
      by_cases hnext : acc * 10 + digitValue c ≤ limit
      · rw [if_pos hnext, ih hnext, List.forall_mem_cons]
        exact ⟨fun h => ⟨⟨hc, h.1⟩, h.2⟩, fun h => ⟨h.1.2, h.2⟩⟩
      · -- further digits do not bring the value back within the limit
        rw [if_neg hnext]
        refine ⟨fun h => (by cases h), ?_⟩
        rintro ⟨-, hvalue, hlimit⟩
        have hle := le_foldl_value cs (acc * 10 + digitValue c)
        exact absurd (Nat.le_trans hle (hvalue ▸ hlimit)) hnext
    · rw [if_neg hc]
      exact ⟨fun h => (by cases h), fun h => absurd (h.1 c List.mem_cons_self) hc⟩

theorem map_magnitude_eq_ok_iff {limit : Nat} {tooFar : Fault} {f : Nat → Int} {cs : List Char}
    {m : Int} :
    (magnitude limit tooFar 0 cs).map f = .ok m ↔
      (∀ c ∈ cs, isDigit c = true) ∧ value cs ≤ limit ∧ f (value cs) = m := by
  rcases hread : magnitude limit tooFar 0 cs with fault | n
  · refine ⟨fun h => (by cases h), ?_⟩
    rintro ⟨hdigits, hlimit, -⟩
    have hok : magnitude limit tooFar 0 cs = .ok (value cs) :=
      (magnitude_eq_ok_iff (Nat.zero_le limit)).2 ⟨hdigits, rfl, hlimit⟩
    rw [hread] at hok
    cases hok
  · obtain ⟨hdigits, hvalue, hlimit⟩ := (magnitude_eq_ok_iff (Nat.zero_le limit)).1 hread
    obtain rfl : value cs = n := hvalue
    show Except.ok (f (value cs)) = .ok m ↔ _
    rw [Except.ok.injEq]
    exact ⟨fun h => ⟨hdigits, hlimit, h⟩, fun h => h.2.2⟩

theorem ne_of_isDigit {c d : Char} (hc : isDigit c = true) (hd : isDigit d = false) : c ≠ d := by
  rintro rfl
  rw [hc] at hd
  cases hd

theorem signed_of_ne {c : Char} (hplus : c ≠ '+') (hminus : c ≠ '-') (ds : List Char) :
    signed (c :: ds) =
      (magnitude Int64.maxValue.toInt.toNat .tooLarge 0 (c :: ds)).map Int.ofNat := by
  unfold signed
  split
  · next h => cases h
  · next h => exact absurd (List.cons.inj h).1 hplus
  · next h => exact absurd (List.cons.inj h).1 hminus
  · next h => exact absurd (List.cons.inj h).1 hplus
  · next h => exact absurd (List.cons.inj h).1 hminus
  · rfl

theorem splitSign_of_ne {c : Char} (hminus : c ≠ '-') (hplus : c ≠ '+') (cs : List Char) :
    splitSign (c :: cs) = (false, c :: cs) := by
  unfold splitSign
  split
  · next h => exact absurd (List.cons.inj h).1 hminus
  · next h => exact absurd (List.cons.inj h).1 hplus
  · rfl

/-- Digits alone are read as what they are worth, if that is within the range. -/
theorem toOption_readInt64 {ds : List Char} (hne : ds ≠ []) (hds : ∀ d ∈ ds, isDigit d = true) :
    (readInt64 (String.ofList ds)).toOption =
      if value ds ≤ Int64.maxValue.toInt.toNat then some (Int64.ofInt (value ds)) else none := by
  obtain ⟨c, rest, rfl⟩ := List.exists_cons_of_ne_nil hne
  have hc := hds c List.mem_cons_self
  rw [readInt64, String.toList_ofList,
    signed_of_ne (ne_of_isDigit hc (by decide)) (ne_of_isDigit hc (by decide))]
  split
  · next hle =>
    rw [map_magnitude_eq_ok_iff.2 ⟨hds, hle, rfl⟩]
    rfl
  · next hgt =>
    rcases hread : (magnitude Int64.maxValue.toInt.toNat .tooLarge 0 (c :: rest)).map Int.ofNat
      with fault | m
    · rfl
    · exact absurd (map_magnitude_eq_ok_iff.1 hread).2.1 hgt

/-- The sign is applied to what the digits give on their own, and both are exact. -/
theorem leadingInt?_eq {s : String} {negative : Bool} {rest : List Char}
    (h : splitSign (trimStart s.toList) = (negative, rest)) :
    leadingInt? s =
      if rest.takeWhile isDigit = [] then none
      else if value (rest.takeWhile isDigit) ≤ Int64.maxValue.toInt.toNat then
        some (Int64.ofInt
          (if negative then -Int.ofNat (value (rest.takeWhile isDigit))
            else Int.ofNat (value (rest.takeWhile isDigit))))
      else none := by
  unfold leadingInt?
  rw [h]
  dsimp only
  split
  · rfl
  · next hne =>
    rw [toOption_readInt64 hne (List.all_eq_true.1 List.all_takeWhile)]
    by_cases hle : value (rest.takeWhile isDigit) ≤ Int64.maxValue.toInt.toNat
    · rw [if_pos hle, if_pos hle]
      cases negative with
      | true => exact congrArg some (Int64.ofInt_neg _).symm
      | false => rfl
    · rw [if_neg hle, if_neg hle]
      rfl

end Decimal

end PlanViewer.Text
