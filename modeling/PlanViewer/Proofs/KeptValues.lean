import PlanViewer.Proofs.FailedCalls

/-!
# Values that can be read as soon as they are kept

A value is kept until an expiry, and can be read as long as that lies ahead. At the instant at which
it is kept this is so exactly when the number of days is positive, with one exception: at the end of
time nothing lies ahead (`Instant.lt_expiry_iff`). Every store shows this of the values it has been
told to keep, and leaves the values under other names as they are.
-/

namespace PlanViewer

/-! ## Expiries that lie ahead -/

namespace Instant

theorem parts_of_ofParts? {seconds : Int} {nanos : Nat} {t : Instant}
    (h : ofParts? seconds nanos = some t) : t.seconds = seconds ∧ t.nanos = nanos := by
  unfold ofParts? at h
  split at h
  · split at h
    · cases h
      exact ⟨rfl, rfl⟩
    · cases h
  · cases h

theorem seconds_of_addSeconds? {t later : Instant} {seconds : Int} (hpos : 0 < seconds)
    (h : t.addSeconds? seconds = some later) : later.seconds = t.seconds + seconds := by
  rw [addSeconds?, if_pos hpos] at h
  split at h
  · exact (parts_of_ofParts? h).1
  · exact (parts_of_ofParts? h).1

/-- Going back leads to no later instant, also from a leap second, which counts as the second after
it then. -/
theorem le_of_addSeconds? {t earlier : Instant} {seconds : Int} (hneg : seconds ≤ 0)
    (h : t.addSeconds? seconds = some earlier) : earlier ≤ t := by
  rw [le_def]
  rw [addSeconds?, if_neg (by omega : ¬ 0 < seconds)] at h
  split at h
  · obtain ⟨hseconds, hnanos⟩ := parts_of_ofParts? h
    omega
  · split at h
    · obtain ⟨hseconds, hnanos⟩ := parts_of_ofParts? h
      omega
    · cases h
      omega

theorem lt_latest_of_seconds_lt {t : Instant} (h : t.seconds < maxSeconds) : t < latest :=
  Or.inl h

/-- **An expiry lies ahead when the number of days is positive**, unless time is at its end. -/
theorem lt_expiry_iff (now : Instant) (days : Int64) :
    now < now.expiry days ↔ 0 < days.toInt ∧ now < latest := by
  have hday : 0 < secondsPerDay := by decide
  rw [expiry_eq]
  by_cases hdays : 0 < days.toInt
  · have hpos : 0 < days.toInt * secondsPerDay := Int.mul_pos hdays hday
    rcases hadd : now.addSeconds? (days.toInt * secondsPerDay) with _ | t
    · simp [hdays]
    · have hlater := seconds_of_addSeconds? hpos hadd
      have hlast : t.seconds ≤ maxSeconds := t.inRange.2
      have hnow : now < t := Or.inl (by omega)
      have hlatest : now < latest := lt_latest_of_seconds_lt (by omega)
      simp [hdays, hnow, hlatest]
  · have hneg : days.toInt * secondsPerDay ≤ 0 :=
      Int.mul_nonpos_of_nonpos_of_nonneg (by omega) (Int.le_of_lt hday)
    rcases hadd : now.addSeconds? (days.toInt * secondsPerDay) with _ | t
    · have hnot : ¬ now < earliest := fun hlt => not_le.2 hlt (earliest_le now)
      simp [hdays, hnot]
    · have hnot : ¬ now < t := fun hlt => not_le.2 hlt (le_of_addSeconds? hneg hadd)
      simp [hdays, hnot]

end Instant

/-! ## Values of a map -/

namespace ExpiringMap

theorem get?_set (m : ExpiringMap) (start now : Instant) (kept value name : String)
    (days : Int64) :
    get? (m.set start kept value days) now name =
      if kept = name then (if now < start.expiry days then some value else none)
      else m.get? now name := by
  rw [get?, live?_set]
  split
  · by_cases hlt : now < start.expiry days <;> simp [hlt]
  · rfl

theorem get?_set_of_ne (m : ExpiringMap) (start now : Instant) {kept name : String}
    (hne : kept ≠ name) (value : String) (days : Int64) :
    get? (m.set start kept value days) now name = m.get? now name := by
  rw [get?_set, if_neg hne]

/-- What can be read of a value at the instant at which it is kept. -/
theorem get?_set_self (m : ExpiringMap) (now : Instant) (name value : String) (days : Int64) :
    get? (m.set now name value days) now name =
      if 0 < days.toInt ∧ now < .latest then some value else none := by
  rw [get?_set, if_pos rfl]
  simp only [Instant.lt_expiry_iff]

end ExpiringMap

/-! ## Values of a store -/

namespace Store

open ExpiringMap

/-- The jar in the store, if it is one, holds no name twice. -/
def NamesOnce (s : Store) : Prop :=
  ∀ jar, s.backend = .cookies jar → NamesDistinct jar.cookies

variable {s s' : Store} {now : Instant} {name value : String} {days : Int64}

/-- A store that has kept a value stood for some entries before. -/
theorem NamesOnce.holds_of_set (hs : s.NamesOnce)
    (h : (set now name value days).outcome s = (.ok (), s')) : ∃ l, Holds s l := by
  obtain ⟨held | jar | root, disk⟩ := s
  · exact ⟨_, .memory held disk⟩
  · exact ⟨_, .cookies disk (hs jar rfl)⟩
  · obtain ⟨c, hholds⟩ := Store.holds_of_set h
    exact ⟨c.entries, hholds⟩

/-- What a store shows of a value that it has just kept. -/
theorem get?_of_set (hs : s.NamesOnce)
    (h : (set now name value days).outcome s = (.ok (), s')) :
    s'.get? now name = .ok (if 0 < days.toInt ∧ now < .latest then some value else none) := by
  obtain ⟨l, hholds⟩ := hs.holds_of_set h
  obtain ⟨after, l', houtcome, hafter, hagree⟩ := hholds.set now name value days
  have hsame : s' = after := congrArg Prod.snd (h.symm.trans houtcome)
  subst hsame
  rw [hafter.get?_eq, hagree.get?_eq, get?_set_self]

end Store

end PlanViewer
