import Mathlib.Tactic.Ring
import PlanViewer.Time.Moment

/-!
# Dates and instants are told apart by what they show

The date of a day number is one that the calendar has, and its day number is the one it was made
from. With the time of day beside it the same holds of instants: the fields that an instant shows
are fields of a clock, and they lead back to the instant, leap seconds included.
-/

namespace PlanViewer

namespace Date

/-! ## Days of a year -/

/-- The days in months of those lengths. -/
def total (lengths : List Nat) : Nat :=
  lengths.foldl (· + ·) 0

theorem foldl_add (lengths : List Nat) (n : Nat) :
    lengths.foldl (· + ·) n = n + total lengths := by
  induction lengths generalizing n with
  | nil => rfl
  | cons length lengths ih =>
    rw [total, List.foldl_cons, List.foldl_cons, ih, ih]
    omega

theorem total_cons (length : Nat) (lengths : List Nat) :
    total (length :: lengths) = length + total lengths := by
  rw [total, List.foldl_cons, foldl_add]
  omega

/-- A day is found in the month that it falls in, at its place there. -/
theorem monthOfDay_eq (lengths : List Nat) (month : Nat) {day : Nat} (h : day < total lengths) :
    ∃ k d, k < lengths.length ∧ d < lengths.getD k 0 ∧
      day = total (lengths.take k) + d ∧
      monthOfDay lengths month day = (month + k, d + 1) := by
  induction lengths generalizing month day with
  | nil => exact absurd h (Nat.not_lt_zero day)
  | cons length lengths ih =>
    rw [total_cons] at h
    rw [monthOfDay]
    split
    · next hday => exact ⟨0, day, Nat.succ_pos _, hday, by simp [total], rfl⟩
    · next hday =>
      have hrest : day - length < total lengths := by omega
      obtain ⟨k, d, hk, hd, heq, hfound⟩ := ih (month + 1) hrest
      refine ⟨k + 1, d, Nat.succ_lt_succ hk, hd, ?_, ?_⟩
      · rw [List.take_succ_cons, total_cons]
        omega
      · rw [hfound]
        congr 1
        omega

/-- The months of a year make up the year. -/
theorem daysBeforeYear_succ (year : Int) :
    daysBeforeYear (year + 1) = daysBeforeYear year + total (monthLengths year) := by
  have hyear : total (monthLengths year) = if isLeap year then 366 else 365 := by
    rw [monthLengths]
    cases isLeap year <;> rfl
  rw [hyear]
  -- the rule for leap years is the difference of the quotients that count them
  by_cases hleap : isLeap year = true
  · rw [if_pos hleap]
    simp only [isLeap, Bool.and_eq_true, Bool.or_eq_true, decide_eq_true_eq] at hleap
    unfold daysBeforeYear
    omega
  · rw [if_neg hleap]
    simp only [isLeap, Bool.and_eq_true, Bool.or_eq_true, decide_eq_true_eq] at hleap
    unfold daysBeforeYear
    omega

/-! ## Day numbers -/

/-- Where the date of a day number stands: the number of full months before it in its year, and
of full days before it in its month. -/
theorem ofDayNumber_eq (number : Int) :
    ∃ year : Int, ∃ k d : Nat, k < 12 ∧ d < (monthLengths year).getD k 0 ∧
      ofDayNumber number = ⟨year, k + 1, d + 1⟩ ∧
      number + epoch = daysBeforeYear year + total ((monthLengths year).take k) + d := by
  obtain ⟨hstart, hend⟩ := daysBeforeYear_yearOfDay (number + epoch)
  rw [daysBeforeYear_succ] at hend
  have hday : (number + epoch - daysBeforeYear (yearOfDay (number + epoch))).toNat <
      total (monthLengths (yearOfDay (number + epoch))) := by
    omega
  obtain ⟨k, d, hk, hd, hplace, hfound⟩ := monthOfDay_eq _ 1 hday
  refine ⟨yearOfDay (number + epoch), k, d, hk, hd, ?_, by omega⟩
  rw [ofDayNumber]
  simp only [hfound]
  rw [Nat.add_comm 1 k]

theorem isValid_ofDayNumber (number : Int) : (ofDayNumber number).isValid = true := by
  obtain ⟨year, k, d, hk, hd, heq, _⟩ := ofDayNumber_eq number
  have hmonth : 1 ≤ k + 1 ∧ k + 1 ≤ 12 := by omega
  have hday : 1 ≤ d + 1 := by omega
  rw [heq, isValid, Bool.and_eq_true, Bool.and_eq_true, decide_eq_true_eq, decide_eq_true_eq,
    decide_eq_true_eq]
  exact ⟨⟨hmonth, hday⟩, hd⟩

theorem dayNumber_ofDayNumber (number : Int) : (ofDayNumber number).dayNumber = number := by
  obtain ⟨year, k, d, _, _, heq, hday⟩ := ofDayNumber_eq number
  rw [heq, dayNumber, daysBeforeMonth]
  show daysBeforeYear year + (total ((monthLengths year).take (k + 1 - 1)) : Nat) +
    ((d + 1 : Nat) : Int) - 1 - epoch = number
  rw [Nat.add_sub_cancel]
  omega

theorem getD_monthLengths_le (year : Int) (k : Nat) : (monthLengths year).getD k 0 ≤ 31 := by
  have hall : ∀ n ∈ monthLengths year, n ≤ 31 := by
    rw [monthLengths]
    cases isLeap year <;> decide
  rw [List.getD_eq_getElem?_getD]
  cases hlength : (monthLengths year)[k]? with
  | none => exact Nat.zero_le 31
  | some n => exact hall n (List.mem_of_getElem? hlength)

/-- Two digits are enough for the month and for the day of the month. -/
theorem ofDayNumber_lt (number : Int) :
    (ofDayNumber number).month < 100 ∧ (ofDayNumber number).day < 100 := by
  obtain ⟨year, k, d, hk, hd, heq, _⟩ := ofDayNumber_eq number
  have hlength := getD_monthLengths_le year k
  have hbounds : k + 1 < 100 ∧ d + 1 < 100 := by omega
  rw [heq]
  exact hbounds

end Date

/-! ## Fields of a clock -/

namespace Moment

/-- The seconds of the day that an instant falls in. -/
def clock (t : Instant) : Nat :=
  (t.seconds % Instant.secondsPerDay).toNat

theorem clock_lt (t : Instant) : clock t < 86400 := by
  rw [clock, Instant.secondsPerDay]
  omega

theorem dayOf_clock (t : Instant) :
    dayOf t.seconds * Instant.secondsPerDay + clock t = t.seconds := by
  rw [clock, dayOf, Instant.secondsPerDay]
  omega

/-- A leap second comes after the last second of a minute. -/
theorem clock_mod_of_leap {t : Instant} (h : Instant.nanosPerSecond ≤ t.nanos) :
    clock t % 60 = 59 := by
  have hsecond : t.seconds % 60 = 59 := by
    rcases t.inSecond with hlt | hleap
    · omega
    · exact hleap.2
  rw [clock, Instant.secondsPerDay]
  omega

theorem ofInstant_of_not_leap {t : Instant} (h : ¬ Instant.nanosPerSecond ≤ t.nanos) :
    ofInstant t = ⟨Date.ofDayNumber (dayOf t.seconds), clock t / 3600, clock t / 60 % 60,
      clock t % 60, t.nanos⟩ := by
  rw [ofInstant]
  simp only [if_neg h]
  rfl

theorem ofInstant_of_leap {t : Instant} (h : Instant.nanosPerSecond ≤ t.nanos) :
    ofInstant t = ⟨Date.ofDayNumber (dayOf t.seconds), clock t / 3600, clock t / 60 % 60, 60,
      t.nanos - Instant.nanosPerSecond⟩ := by
  rw [ofInstant]
  simp only [if_pos h]
  show Moment.mk _ _ _ (clock t % 60 + 1) _ = _
  rw [clock_mod_of_leap h]
  rfl

theorem isValid_iff {m : Moment} : m.isValid = true ↔
    m.date.isValid = true ∧ m.hour ≤ 23 ∧ m.minute ≤ 59 ∧ m.second ≤ 60 ∧
      m.nanos < Instant.nanosPerSecond := by
  simp only [isValid, Bool.and_eq_true, decide_eq_true_eq, and_assoc]

/-- The fields that an instant shows are those of a calendar and a clock. -/
theorem isValid_ofInstant (t : Instant) : (ofInstant t).isValid = true := by
  have hclock := clock_lt t
  have hdate := Date.isValid_ofDayNumber (dayOf t.seconds)
  have hhour : clock t / 3600 ≤ 23 := by omega
  have hminute : clock t / 60 % 60 ≤ 59 := by omega
  rw [isValid_iff]
  by_cases hleap : Instant.nanosPerSecond ≤ t.nanos
  · have hnanos : t.nanos - Instant.nanosPerSecond < Instant.nanosPerSecond := by
      rcases t.inSecond with hlt | hlt
      · omega
      · omega
    rw [ofInstant_of_leap hleap]
    exact ⟨hdate, hhour, hminute, Nat.le_refl 60, hnanos⟩
  · have hsecond : clock t % 60 ≤ 60 := by omega
    rw [ofInstant_of_not_leap hleap]
    exact ⟨hdate, hhour, hminute, hsecond, Nat.lt_of_not_le hleap⟩

/-- **The fields of an instant lead back to it.** -/
theorem toInstant?_ofInstant (t : Instant) : (ofInstant t).toInstant? 0 = some t := by
  have hday := dayOf_clock t
  have hnumber := Date.dayNumber_ofDayNumber (dayOf t.seconds)
  rw [toInstant?, if_pos (isValid_ofInstant t)]
  by_cases hleap : Instant.nanosPerSecond ≤ t.nanos
  · have hmod := clock_mod_of_leap hleap
    have hsum : clock t / 3600 * 3600 + clock t / 60 % 60 * 60 + (60 - 1) = clock t := by omega
    rw [ofInstant_of_leap hleap]
    simp only [if_true, hnumber, hsum, hday, Nat.sub_add_cancel hleap, Int.sub_zero,
      Instant.ofParts?_self, Option.bind_some]
  · have hne : clock t % 60 ≠ 60 := by omega
    have hsum : clock t / 3600 * 3600 + clock t / 60 % 60 * 60 + clock t % 60 = clock t := by omega
    rw [ofInstant_of_not_leap hleap]
    simp only [if_neg hne, Nat.sub_zero, Nat.add_zero, hnumber, hsum, hday, Int.sub_zero,
      Instant.ofParts?_self, Option.bind_some]

end Moment

end PlanViewer
