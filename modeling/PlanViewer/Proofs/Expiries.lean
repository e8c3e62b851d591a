import PlanViewer.Proofs.KeptValues

/-!
# Expiries as positions on the time line

The time line is measured from the reading of the clock, in nanoseconds from there to an instant
(`Instant.nanosTo`). The reading may be in a leap second, which is then a second of its own. On this
scale whole seconds are added exactly or lead beyond an end of the range
(`Instant.addSeconds?_eq_some_iff`, `Instant.addSeconds?_eq_none_iff`), so the position of an expiry
is that of the days, brought into the range (`Instant.nanosTo_expiry`).

Two things have to agree for that. Counting the days first must refuse nothing that a sum in the
range needs, which is `Instant.expiry_eq`. And the end at which an expiry stays is chosen by the
sign of the number of days alone, which is the right end because the reading itself is in the range.
-/

namespace PlanViewer

namespace Instant

variable {now t t' : Instant} {seconds : Int} {days : Int64}

/-! ## Distances -/

/-- The nanoseconds from an instant to another. From within a leap second the seconds that come
after it are one second further away than their numbers tell. -/
def nanosTo (now t : Instant) : Int :=
  (t.seconds - now.seconds) * nanosPerSecond + t.nanos - now.nanos +
    if now.seconds < t.seconds ∧ nanosPerSecond ≤ now.nanos then (nanosPerSecond : Int) else 0

/-- Whether whole seconds can lead to an instant: they leave a leap second and enter none. -/
def Reaches (now t : Instant) : Prop :=
  t.nanos < nanosPerSecond ∨ t = now

theorem nanos_lt (t : Instant) : t.nanos < 2 * nanosPerSecond := by
  have hsecond := t.inSecond
  omega

theorem nanosTo_self (now : Instant) : now.nanosTo now = 0 := by
  unfold nanosTo
  rw [if_neg (fun h => Int.lt_irrefl _ h.1)]
  omega

/-- From a reading in an ordinary second the distance is a plain difference. -/
theorem nanosTo_of_lt (h : now.nanos < nanosPerSecond) (t : Instant) :
    now.nanosTo t = (t.seconds - now.seconds) * nanosPerSecond + t.nanos - now.nanos := by
  unfold nanosTo
  rw [if_neg (by omega), Int.add_zero]

theorem reaches_self (now : Instant) : now.Reaches now :=
  Or.inr rfl

theorem reaches_earliest (now : Instant) : now.Reaches earliest :=
  Or.inl (by decide)

theorem reaches_latest (now : Instant) : now.Reaches latest :=
  Or.inl (by decide)

/-- **Distances order instants as time does.** -/
theorem nanosTo_le_iff (ht : now.Reaches t) (ht' : now.Reaches t') :
    now.nanosTo t ≤ now.nanosTo t' ↔ t ≤ t' := by
  have hnow := now.nanos_lt
  unfold nanosPerSecond at hnow
  unfold Reaches nanosPerSecond at ht ht'
  unfold nanosTo nanosPerSecond
  rw [le_def]
  -- only the reading itself may be in a leap second, and no other instant in it is compared
  rcases ht with ht | rfl
  · rcases ht' with ht' | rfl
    · split <;> split <;> omega
    · split <;> split <;> omega
  · rcases ht' with ht' | rfl
    · split <;> split <;> omega
    · omega

theorem eq_of_le_of_le (h : t ≤ t') (h' : t' ≤ t) : t = t' := by
  rw [le_def] at h h'
  obtain ⟨seconds, nanos, _, _⟩ := t
  obtain ⟨seconds', nanos', _, _⟩ := t'
  dsimp only at h h'
  obtain rfl : seconds = seconds' := by omega
  obtain rfl : nanos = nanos' := by omega
  rfl

theorem eq_of_nanosTo_eq (ht : now.Reaches t) (ht' : now.Reaches t')
    (h : now.nanosTo t = now.nanosTo t') : t = t' :=
  eq_of_le_of_le ((nanosTo_le_iff ht ht').1 (Int.le_of_eq h))
    ((nanosTo_le_iff ht' ht).1 (Int.le_of_eq h.symm))

theorem nanosTo_earliest_le (now : Instant) : now.nanosTo earliest ≤ 0 := by
  rw [← nanosTo_self now, nanosTo_le_iff now.reaches_earliest now.reaches_self]
  exact earliest_le now

theorem nanosTo_latest_pos (h : now < latest) : 0 < now.nanosTo latest := by
  rw [← nanosTo_self now]
  refine Int.not_le.1 fun hle => not_le.2 h ?_
  exact (nanosTo_le_iff now.reaches_latest now.reaches_self).1 hle

theorem nanosTo_earliest (now : Instant) :
    now.nanosTo earliest = (minSeconds - now.seconds) * nanosPerSecond - now.nanos := by
  have hrange : minSeconds ≤ now.seconds := now.inRange.1
  unfold nanosTo earliest
  dsimp only
  rw [if_neg (by omega)]
  omega

/-- There is no leap second at the end of the range, so one more second lies ahead of each. -/
theorem nanosTo_latest_of_leap (hnow : now < latest) (hleap : ¬ now.nanos < nanosPerSecond) :
    now.nanosTo latest = (maxSeconds - now.seconds + 2) * nanosPerSecond - 1 - now.nanos := by
  unfold nanosTo
  unfold latest nanosPerSecond at *
  rw [lt_def] at hnow
  dsimp only at hnow ⊢
  rw [if_pos (by omega)]
  omega

/-! ## Adding seconds -/

theorem ofParts?_eq_some_iff {nanos : Nat} :
    ofParts? seconds nanos = some t ↔ t.seconds = seconds ∧ t.nanos = nanos := by
  refine ⟨parts_of_ofParts?, ?_⟩
  rintro ⟨rfl, rfl⟩
  exact ofParts?_self t

theorem ofParts?_eq_none_iff {nanos : Nat} (h : nanos < nanosPerSecond) :
    ofParts? seconds nanos = none ↔ seconds < minSeconds ∨ maxSeconds < seconds := by
  unfold ofParts?
  split
  · next hrange =>
    rw [dif_pos (Or.inl h)]
    constructor
    · intro hsome
      cases hsome
    · intro hout
      omega
  · next hrange =>
    simp only [true_iff]
    omega

/-- **Seconds are added exactly**: the sum is the instant that is so many seconds away. -/
theorem addSeconds?_eq_some_iff :
    now.addSeconds? seconds = some t ↔
      now.nanosTo t = seconds * nanosPerSecond ∧ now.Reaches t := by
  have hnow := now.nanos_lt
  unfold nanosPerSecond at hnow
  unfold addSeconds? nanosTo Reaches nanosPerSecond
  split
  · rw [ofParts?_eq_some_iff, if_neg (by omega)]
    constructor
    · rintro ⟨hseconds, hnanos⟩
      omega
    · rintro ⟨hdistance, hordinary | rfl⟩
      · omega
      · omega
  · -- From within a leap second the direction counts, and zero seconds stay in it.
    split
    · rw [ofParts?_eq_some_iff]
      constructor
      · rintro ⟨hseconds, hnanos⟩
        rw [if_pos (by omega)]
        omega
      · rintro ⟨hdistance, hordinary | rfl⟩
        · split at hdistance <;> omega
        · split at hdistance <;> omega
    · split
      · rw [ofParts?_eq_some_iff]
        constructor
        · rintro ⟨hseconds, hnanos⟩
          rw [if_neg (by omega)]
          omega
        · rintro ⟨hdistance, hordinary | rfl⟩
          · split at hdistance <;> omega
          · split at hdistance <;> omega
      · constructor
        · intro hself
          cases hself
          rw [if_neg (by omega)]
          exact ⟨by omega, Or.inr rfl⟩
        · rintro ⟨hdistance, hordinary | rfl⟩
          · split at hdistance <;> omega
          · rfl

/-- **Only a sum beyond the range is refused.** -/
theorem addSeconds?_eq_none_iff (hnow : now < latest) :
    now.addSeconds? seconds = none ↔
      seconds * nanosPerSecond < now.nanosTo earliest ∨
        now.nanosTo latest < seconds * nanosPerSecond := by
  have hnanos := now.nanos_lt
  have hrange := now.inRange
  have hearliest := now.nanosTo_earliest_le
  have hlatest := nanosTo_latest_pos hnow
  unfold addSeconds?
  split
  · next hordinary =>
    rw [ofParts?_eq_none_iff hordinary, nanosTo_of_lt hordinary, nanosTo_of_lt hordinary]
    unfold earliest latest nanosPerSecond
    unfold nanosPerSecond at hordinary
    dsimp only
    omega
  · next hleap =>
    have hextra : now.nanos - nanosPerSecond < nanosPerSecond := by omega
    have hfirst : now.nanosTo earliest = (minSeconds - now.seconds) * nanosPerSecond - now.nanos :=
      nanosTo_earliest now
    have hlast : now.nanosTo latest =
        (maxSeconds - now.seconds + 2) * nanosPerSecond - 1 - now.nanos :=
      nanosTo_latest_of_leap hnow hleap
    unfold nanosPerSecond at *
    split
    · rw [ofParts?_eq_none_iff hextra]
      omega
    · split
      · rw [ofParts?_eq_none_iff hextra]
        omega
      · have hzero : seconds = 0 := by omega
        subst hzero
        simp only [reduceCtorEq, false_iff]
        omega

/-! ## The position of an expiry -/

/-- The nanoseconds of so many days. -/
def dayNanos (days : Int64) : Int :=
  days.toInt * secondsPerDay * nanosPerSecond

theorem dayNanos_pos_iff : 0 < dayNanos days ↔ 0 < days.toInt := by
  unfold dayNanos secondsPerDay nanosPerSecond
  omega

theorem dayNanos_le_iff {more : Int64} : dayNanos days ≤ dayNanos more ↔ days ≤ more := by
  rw [Int64.le_iff_toInt_le]
  unfold dayNanos secondsPerDay nanosPerSecond
  omega

theorem reaches_expiry (now : Instant) (days : Int64) : now.Reaches (now.expiry days) := by
  rw [expiry_eq]
  rcases hsum : now.addSeconds? (days.toInt * secondsPerDay) with _ | t
  · rw [Option.getD_none]
    split
    · exact now.reaches_latest
    · exact now.reaches_earliest
  · exact (addSeconds?_eq_some_iff.1 hsum).2

/-- **The position of an expiry is the number of days, brought into the range.** -/
theorem nanosTo_expiry (hnow : now < latest) (days : Int64) :
    now.nanosTo (now.expiry days) =
      max (now.nanosTo earliest) (min (now.nanosTo latest) (dayNanos days)) := by
  have hearliest := now.nanosTo_earliest_le
  have hlatest := nanosTo_latest_pos hnow
  have hsign : 0 < dayNanos days ↔ 0 < days.toInt := dayNanos_pos_iff
  have hrefused : now.addSeconds? (days.toInt * secondsPerDay) = none ↔
      dayNanos days < now.nanosTo earliest ∨ now.nanosTo latest < dayNanos days :=
    addSeconds?_eq_none_iff hnow
  rw [expiry_eq]
  rcases hsum : now.addSeconds? (days.toInt * secondsPerDay) with _ | t
  · -- The reading is in the range, so days beyond its end are positive and others are not.
    have hout := hrefused.1 hsum
    rw [Option.getD_none]
    split
    · omega
    · omega
  · have hposition : now.nanosTo t = dayNanos days := (addSeconds?_eq_some_iff.1 hsum).1
    have hin : ¬ (dayNanos days < now.nanosTo earliest ∨ now.nanosTo latest < dayNanos days) := by
      rw [← hrefused, hsum]
      exact Option.some_ne_none t
    rw [Option.getD_some, hposition]
    omega

/-- **More days never lead to an earlier expiry.** -/
theorem expiry_mono (hnow : now < latest) {more : Int64} (h : days ≤ more) :
    now.expiry days ≤ now.expiry more := by
  have hnanos : dayNanos days ≤ dayNanos more := dayNanos_le_iff.2 h
  rw [← nanosTo_le_iff (now.reaches_expiry days) (now.reaches_expiry more),
    nanosTo_expiry hnow, nanosTo_expiry hnow]
  omega

/-- An expiry is the instant at its position. -/
theorem expiry_eq_iff (hnow : now < latest) :
    now.expiry days = t ↔
      now.nanosTo t = max (now.nanosTo earliest) (min (now.nanosTo latest) (dayNanos days)) ∧
        now.Reaches t := by
  constructor
  · rintro rfl
    exact ⟨nanosTo_expiry hnow days, now.reaches_expiry days⟩
  · rintro ⟨hposition, hreaches⟩
    refine eq_of_nanosTo_eq (now.reaches_expiry days) hreaches ?_
    rw [nanosTo_expiry hnow, hposition]

/-- From a reading in an ordinary second the days are added to its seconds, and its nanoseconds stay
as they are. -/
theorem expiry_of_ordinary (hordinary : now.nanos < nanosPerSecond) (days : Int64) :
    (minSeconds ≤ now.seconds + days.toInt * secondsPerDay →
      now.seconds + days.toInt * secondsPerDay ≤ maxSeconds →
      (now.expiry days).seconds = now.seconds + days.toInt * secondsPerDay ∧
        (now.expiry days).nanos = now.nanos) ∧
    (maxSeconds < now.seconds + days.toInt * secondsPerDay → now.expiry days = latest) ∧
    (now.seconds + days.toInt * secondsPerDay < minSeconds → now.expiry days = earliest) := by
  have hrange := now.inRange
  rw [expiry_eq, addSeconds?, if_pos hordinary]
  refine ⟨?_, ?_, ?_⟩
  · intro hfirst hlast
    rw [ofParts?, dif_pos ⟨hfirst, hlast⟩, dif_pos (Or.inl hordinary), Option.getD_some]
    exact ⟨rfl, rfl⟩
  · intro hbeyond
    rw [(ofParts?_eq_none_iff hordinary).2 (Or.inr hbeyond), Option.getD_none, if_pos]
    unfold secondsPerDay at hbeyond
    omega
  · intro hbefore
    rw [(ofParts?_eq_none_iff hordinary).2 (Or.inl hbefore), Option.getD_none, if_neg]
    unfold secondsPerDay at hbefore
    omega

/-- **Expiries are exact sums that stay within the range.** From every reading before the last
instant and for every number of days the expiry is the one instant that is so many days away, the
last instant where that lies beyond it and the first one where it lies before it. Hence more days
never lead to an earlier expiry, and a value is unexpired where it is kept exactly when the number
of days is positive. -/
theorem expiry_exact {now : Instant} (hnow : now < latest) (days : Int64) :
    (now.nanos < nanosPerSecond →
      (minSeconds ≤ now.seconds + days.toInt * secondsPerDay →
        now.seconds + days.toInt * secondsPerDay ≤ maxSeconds →
        (now.expiry days).seconds = now.seconds + days.toInt * secondsPerDay ∧
          (now.expiry days).nanos = now.nanos) ∧
      (maxSeconds < now.seconds + days.toInt * secondsPerDay → now.expiry days = latest) ∧
      (now.seconds + days.toInt * secondsPerDay < minSeconds → now.expiry days = earliest)) ∧
    (∀ t, now.nanosTo earliest ≤ dayNanos days → dayNanos days ≤ now.nanosTo latest →
      (now.expiry days = t ↔ now.nanosTo t = dayNanos days ∧ now.Reaches t)) ∧
    (now.nanosTo latest < dayNanos days → now.expiry days = latest) ∧
    (dayNanos days < now.nanosTo earliest → now.expiry days = earliest) ∧
    (∀ more, days ≤ more → now.expiry days ≤ now.expiry more) ∧
    ∀ name value, (Preference.keptFor now name value days).isExpired now = false ↔ 0 < days := by
  have hrange : now.nanosTo earliest ≤ 0 ∧ 0 < now.nanosTo latest :=
    ⟨now.nanosTo_earliest_le, nanosTo_latest_pos hnow⟩
  refine ⟨fun hordinary => expiry_of_ordinary hordinary days, ?_, ?_, ?_,
    fun _ => expiry_mono hnow, ?_⟩
  · intro t hfirst hlast
    rw [expiry_eq_iff hnow, Int.min_eq_right hlast, Int.max_eq_right hfirst]
  · intro hbeyond
    rw [expiry_eq_iff hnow]
    exact ⟨by omega, now.reaches_latest⟩
  · intro hbefore
    rw [expiry_eq_iff hnow]
    exact ⟨by omega, now.reaches_earliest⟩
  · intro name value
    have hahead : now < now.expiry days ↔ 0 < days.toInt := by
      rw [lt_expiry_iff]
      exact and_iff_left hnow
    rw [Preference.isExpired, decide_eq_false_iff_not, not_le, Int64.lt_iff_toInt_lt]
    exact hahead

/-- From a leap second in the last hour of the range: a day forward and the most days stay at its
end, the fewest days stay at its start, and a day back counts from the second after the reading. -/
theorem expiry_exact_last_hour :
    ∃ now : Instant, now.seconds = maxSeconds - 60 ∧ now.nanos = 1500000000 ∧ now < latest ∧
      now.expiry 1 = latest ∧ now.expiry Int64.maxValue = latest ∧
      now.expiry Int64.minValue = earliest ∧
      now.nanosTo (now.expiry (-1)) = -86400000000000 ∧
      now.expiry (-1) ≤ now.expiry 0 ∧
      (Preference.keptFor now "theme" "dark" 1).isExpired now = false := by
  refine ⟨⟨maxSeconds - 60, 1500000000, by decide, by decide⟩, rfl, rfl, by decide, ?_⟩
  refine ⟨(expiry_exact (by decide) 1).2.2.1 (by decide),
    (expiry_exact (by decide) Int64.maxValue).2.2.1 (by decide),
    (expiry_exact (by decide) Int64.minValue).2.2.2.1 (by decide),
    (((expiry_exact (by decide) (-1)).2.1 _ (by decide) (by decide)).1 rfl).1,
    (expiry_exact (by decide) (-1)).2.2.2.2.1 0 (by decide),
    ((expiry_exact (by decide) 1).2.2.2.2.2 "theme" "dark").2 (by decide)⟩

end Instant

end PlanViewer
