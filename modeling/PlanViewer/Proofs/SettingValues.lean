import Mathlib.Data.List.Forall2
import PlanViewer.Proofs.SessionRuns
import PlanViewer.Proofs.TextParts

/-!
# Values that settings take

A setting takes what its grammar says, with white space around it. Days are digits after an optional
plus sign (`Text.Decimal.IsCount`), however many, but worth one to the largest 64-bit integer; a
mode is its name in letters of either case (`Text.SameIgnoringCase`). Nothing else is taken, and
nothing but the setting that is named changes (`Settings.set_eq_ok_iff`). What is refused changes
nothing at all (`Settings.set_error_cases`).

Settings show their values in the same grammar. So each value that is shown can be set, and changes
nothing, as long as the days are positive: a settings file may say zero days or less, which no one
can set.
-/

namespace PlanViewer

open Text Text.Decimal

/-! ## Numbers of days -/

namespace Text.Decimal

/-- The texts that count something, with the number they stand for: digits, at least one and with
any number of zeros in front, and a plus sign before them or none. -/
inductive IsCount : List Char → Nat → Prop
  | digits {ds : List Char} :
      ds ≠ [] → (∀ d ∈ ds, isDigit d = true) → IsCount ds (value ds)
  | plus {ds : List Char} :
      ds ≠ [] → (∀ d ∈ ds, isDigit d = true) → IsCount ('+' :: ds) (value ds)

theorem signed_plus {ds : List Char} (hne : ds ≠ []) :
    signed ('+' :: ds) =
      (magnitude Int64.maxValue.toInt.toNat .tooLarge 0 ds).map Int.ofNat := by
  cases ds with
  | nil => exact absurd rfl hne
  | cons d ds => rfl

theorem signed_minus {ds : List Char} (hne : ds ≠ []) :
    signed ('-' :: ds) =
      (magnitude (-Int64.minValue.toInt).toNat .tooSmall 0 ds).map fun n => -Int.ofNat n := by
  cases ds with
  | nil => exact absurd rfl hne
  | cons d ds => rfl

/-- A text that counts something is read as its number, if that is within the range. -/
theorem signed_of_isCount {cs : List Char} {n : Nat} (h : IsCount cs n)
    (hn : n ≤ Int64.maxValue.toInt.toNat) : signed cs = .ok (Int.ofNat n) := by
  cases h with
  | digits hne hdigits =>
    obtain ⟨c, ds, rfl⟩ := List.exists_cons_of_ne_nil hne
    have hc := hdigits c List.mem_cons_self
    rw [signed_of_ne (ne_of_isDigit hc (by decide)) (ne_of_isDigit hc (by decide))]
    exact map_magnitude_eq_ok_iff.2 ⟨hdigits, hn, rfl⟩
  | plus hne hdigits =>
    rw [signed_plus hne]
    exact map_magnitude_eq_ok_iff.2 ⟨hdigits, hn, rfl⟩

/-- What is read counts something, unless it has a minus sign and is not positive. -/
theorem signed_cases {cs : List Char} {m : Int} (h : signed cs = .ok m) :
    (∃ n, IsCount cs n ∧ n ≤ Int64.maxValue.toInt.toNat ∧ m = Int.ofNat n) ∨
      Int64.minValue.toInt ≤ m ∧ m ≤ 0 := by
  rcases cs with _ | ⟨c, ds⟩
  · cases h
  · -- a sign alone is nothing
    by_cases hplus : c = '+'
    · subst hplus
      have hds : ds ≠ [] := by
        rintro rfl
        cases h
      rw [signed_plus hds, map_magnitude_eq_ok_iff] at h
      exact Or.inl ⟨_, .plus hds h.1, h.2.1, h.2.2.symm⟩
    · by_cases hminus : c = '-'
      · subst hminus
        have hds : ds ≠ [] := by
          rintro rfl
          cases h
        rw [signed_minus hds, map_magnitude_eq_ok_iff] at h
        obtain ⟨-, hlimit, rfl⟩ := h
        rw [Int64.toInt_minValue] at hlimit ⊢
        rw [Int.ofNat_eq_natCast]
        exact Or.inr ⟨by omega, by omega⟩
      · rw [signed_of_ne hplus hminus, map_magnitude_eq_ok_iff] at h
        exact Or.inl ⟨_, .digits (List.cons_ne_nil _ _) h.1, h.2.1, h.2.2.symm⟩

/-- **Which texts are read as positive integers**: those that count something, up to the largest
64-bit integer. -/
theorem readInt64_pos_iff {cs : List Char} {days : Int64} :
    readInt64 (String.ofList cs) = .ok days ∧ 0 < days.toInt ↔
      ∃ n : Nat, IsCount cs n ∧ 0 < n ∧ days.toInt = n := by
  have hmax : Int64.maxValue.toInt.toNat = 9223372036854775807 := by decide
  have hmin : Int64.minValue.toInt = -9223372036854775808 := by decide
  have hlimit := days.toInt_lt
  rw [readInt64, String.toList_ofList]
  constructor
  · rintro ⟨hread, hpos⟩
    rcases hsigned : signed cs with fault | m
    · rw [hsigned] at hread
      cases hread
    · rw [hsigned] at hread
      obtain rfl : Int64.ofInt m = days := Except.ok.inj hread
      rcases signed_cases hsigned with ⟨n, hcount, hn, rfl⟩ | ⟨hlow, hhigh⟩
      · have hvalue : (Int64.ofInt (Int.ofNat n)).toInt = n :=
          Int64.toInt_ofInt_of_le (by rw [Int.ofNat_eq_natCast]; omega)
            (by rw [Int.ofNat_eq_natCast]; omega)
        rw [hvalue] at hpos
        exact ⟨n, hcount, by omega, hvalue⟩
      · have hvalue : (Int64.ofInt m).toInt = m := Int64.toInt_ofInt_of_le (by omega) (by omega)
        omega
  · rintro ⟨n, hcount, hpos, hdays⟩
    rw [signed_of_isCount hcount (by omega)]
    refine ⟨?_, by omega⟩
    show Except.ok (Int64.ofInt (n : Int)) = .ok days
    rw [← hdays, Int64.ofInt_toInt]

theorem toInt_eq_natCast_iff {days : Int64} {n : Nat} :
    days.toInt = n ↔ n ≤ 9223372036854775807 ∧ days = Int64.ofNat n := by
  constructor
  · intro h
    have hlimit := days.toInt_lt
    have hn : n < 9223372036854775808 := by omega
    exact ⟨by omega, Int64.toInt_inj.1 (h.trans (Int64.toInt_ofNat_of_lt hn).symm)⟩
  · rintro ⟨hn, rfl⟩
    exact Int64.toInt_ofNat_of_lt (Nat.lt_succ_of_le hn)

end Text.Decimal

/-! ## Names in letters of either case -/

namespace Text

/-- The same character, or the same ASCII letter in upper and in lower case. -/
def SameLetter (c d : Char) : Prop :=
  c = d ∨ (c.isUpper = true ∧ d.toNat = c.toNat + 32) ∨ (d.isUpper = true ∧ c.toNat = d.toNat + 32)

/-- The same text but for the case of ASCII letters. -/
def SameIgnoringCase (cs ds : List Char) : Prop :=
  List.Forall₂ SameLetter cs ds

theorem toNat_toLower {c : Char} (h : c.isUpper = true) : c.toLower.toNat = c.toNat + 32 := by
  have hrange : c.val ≥ 'A'.val ∧ c.val ≤ 'Z'.val := of_decide_eq_true h
  have hlower : c.toLower.val = c.val + ('a'.val - 'A'.val) :=
    congrArg Char.val (dif_pos hrange)
  have hhigh : c.val.toNat ≤ 90 := UInt32.le_iff_toNat_le.1 hrange.2
  have hshift : ('a'.val - 'A'.val).toNat = 32 := by decide
  show c.toLower.val.toNat = c.val.toNat + 32
  rw [hlower, UInt32.toNat_add, hshift]
  omega

theorem toLower_of_not_isUpper {c : Char} (h : c.isUpper = false) : c.toLower = c :=
  dif_neg (of_decide_eq_false h)

/-- A letter in lower case is what the same letters become in lower case. -/
theorem toLower_eq_iff {c d : Char} (hd : d.isUpper = false) : c.toLower = d ↔ SameLetter c d := by
  rcases hc : c.isUpper with _ | _
  · rw [toLower_of_not_isUpper hc]
    simp [SameLetter, hc, hd]
  · have hne : c ≠ d := by
      rintro rfl
      rw [hc] at hd
      cases hd
    rw [← Char.toNat_inj, toNat_toLower hc]
    simp [SameLetter, hc, hd, hne, eq_comm]

theorem map_toLower_eq_iff {cs ds : List Char} (hds : ∀ d ∈ ds, d.isUpper = false) :
    cs.map Char.toLower = ds ↔ SameIgnoringCase cs ds := by
  induction ds generalizing cs with
  | nil => rw [List.map_eq_nil_iff, SameIgnoringCase, List.forall₂_nil_right_iff]
  | cons d ds ih =>
    cases cs with
    | nil => exact ⟨fun h => (by cases h), fun h => by cases h⟩
    | cons c cs =>
      have hrest : ∀ x ∈ ds, x.isUpper = false := fun x hx => hds x (List.mem_cons_of_mem d hx)
      rw [List.map_cons, List.cons.injEq, toLower_eq_iff (hds d List.mem_cons_self), ih hrest,
        SameIgnoringCase, SameIgnoringCase, List.forall₂_cons]

theorem sameIgnoringCase_refl (cs : List Char) : SameIgnoringCase cs cs :=
  List.forall₂_same.2 fun _ _ => Or.inl rfl

end Text

namespace MatchMode

theorem ofName?_eq_some_iff {name : String} {mode : MatchMode} :
    ofName? name = some mode ↔ mode.name = name := by
  constructor
  · intro h
    have htest : decide (mode.name = name) = true :=
      List.find?_some (p := fun m : MatchMode => decide (m.name = name)) h
    exact of_decide_eq_true htest
  · rintro rfl
    exact ofName?_name mode

/-- **Which texts are read as a mode**: its name in letters of either case, with white space around
it. -/
theorem read_eq_ok_iff {text : String} {mode : MatchMode} :
    read text = .ok mode ↔ SameIgnoringCase (trim text.toList) mode.name.toList := by
  have hall : (mode.name.toList.all fun d => !d.isUpper) = true := by
    cases mode <;> decide
  have hlower : ∀ d ∈ mode.name.toList, d.isUpper = false := fun d hd =>
    (Bool.not_eq_true_eq_eq_false _).mp (List.all_eq_true.1 hall d hd)
  have hname : read text = .ok mode ↔ ofName? (normalized text) = some mode := by
    rw [read]
    rcases ofName? (normalized text) with _ | found <;> simp
  rw [hname, ofName?_eq_some_iff, ← map_toLower_eq_iff hlower, normalized, eq_comm,
    ← String.toList_inj, String.toList_ofList]

end MatchMode

/-! ## Changes of settings -/

namespace Settings

/-- What a change makes of settings: the one that is named becomes what the value says, once it has
been trimmed, and the other one stays. -/
inductive Changed (s : Settings) : String → String → Settings → Prop
  | expiryDays {value : String} {n : Nat} {days : Int64} :
      IsCount (trim value.toList) n → 0 < n → days.toInt = n →
      Changed s "expiry-days" value { s with expiryDays := days }
  | matchMode {value : String} {mode : MatchMode} :
      SameIgnoringCase (trim value.toList) mode.name.toList →
      Changed s "match-mode" value { s with matchMode := mode }

variable {s changed : Settings} {key value : String}

theorem set_expiryKey_eq_ok_iff :
    (set expiryKey value).outcome s = (.ok (), changed) ↔
      ∃ (n : Nat) (days : Int64), IsCount (trim value.toList) n ∧ 0 < n ∧ days.toInt = n ∧
        changed = { s with expiryDays := days } := by
  have hset : (set expiryKey value).outcome s = (.ok (), changed) ↔
      ∃ days, (readInt64 (trimmed value) = .ok days ∧ 0 < days.toInt) ∧
        changed = { s with expiryDays := days } := by
    rw [set, if_pos rfl]
    rcases readInt64 (trimmed value) with fault | days
    · simp [Step.outcome_throw]
    · by_cases hpos : 0 < days.toInt
      · simp [hpos, Step.outcome_modify, eq_comm]
      · simp [hpos, Step.outcome_throw]
  rw [hset]
  constructor
  · rintro ⟨days, hread, hchanged⟩
    obtain ⟨n, hcount, hn, hdays⟩ := readInt64_pos_iff.1 hread
    exact ⟨n, days, hcount, hn, hdays, hchanged⟩
  · rintro ⟨n, days, hcount, hn, hdays, hchanged⟩
    exact ⟨days, readInt64_pos_iff.2 ⟨n, hcount, hn, hdays⟩, hchanged⟩

theorem set_modeKey_eq_ok_iff :
    (set modeKey value).outcome s = (.ok (), changed) ↔
      ∃ mode : MatchMode, SameIgnoringCase (trim value.toList) mode.name.toList ∧
        changed = { s with matchMode := mode } := by
  rw [set, if_neg (by decide), if_pos rfl]
  simp only [← MatchMode.read_eq_ok_iff]
  rcases MatchMode.read value with name | mode
  · simp [Step.outcome_throw]
  · simp [Step.outcome_modify, eq_comm]

theorem set_of_unknown (hexpiry : key ≠ expiryKey) (hmode : key ≠ modeKey) (s : Settings)
    (value : String) : (set key value).outcome s = (.error (.unknownSetting key), s) := by
  rw [set, if_neg hexpiry, if_neg hmode, Step.outcome_throw]

/-- **What a change takes and makes.** -/
theorem set_eq_ok_iff :
    (set key value).outcome s = (.ok (), changed) ↔ s.Changed key value changed := by
  constructor
  · intro h
    by_cases hexpiry : key = expiryKey
    · subst hexpiry
      obtain ⟨n, days, hcount, hn, hdays, rfl⟩ := set_expiryKey_eq_ok_iff.1 h
      exact .expiryDays hcount hn hdays
    · by_cases hmode : key = modeKey
      · subst hmode
        obtain ⟨mode, hname, rfl⟩ := set_modeKey_eq_ok_iff.1 h
        exact .matchMode hname
      · rw [set_of_unknown hexpiry hmode] at h
        cases h
  · rintro (⟨hcount, hn, hdays⟩ | hname)
    · exact set_expiryKey_eq_ok_iff.2 ⟨_, _, hcount, hn, hdays, rfl⟩
    · exact set_modeKey_eq_ok_iff.2 ⟨_, hname, rfl⟩

/-- **A change is refused** because of its name, or because of its value as it was given, and leaves
the settings as they were. -/
theorem set_error_cases {e : PrefsError} (h : (set key value).outcome s = (.error e, changed)) :
    changed = s ∧
      (key ∉ keys ∧ e = .unknownSetting key ∨ key ∈ keys ∧ e = .invalidValue key value) := by
  by_cases hexpiry : key = expiryKey
  · subst hexpiry
    have hinvalid : changed = s ∧ e = .invalidValue expiryKey value := by
      rw [set, if_pos rfl] at h
      rcases hread : readInt64 (trimmed value) with fault | days
      · rw [hread] at h
        cases h
        exact ⟨rfl, rfl⟩
      · rw [hread] at h
        dsimp only at h
        split at h
        · cases h
        · cases h
          exact ⟨rfl, rfl⟩
    exact ⟨hinvalid.1, Or.inr ⟨List.mem_cons_self, hinvalid.2⟩⟩
  · by_cases hmode : key = modeKey
    · subst hmode
      rw [set, if_neg hexpiry, if_pos rfl] at h
      rcases hread : MatchMode.read value with name | mode
      · rw [hread] at h
        cases h
        exact ⟨rfl, Or.inr ⟨List.mem_cons_of_mem _ List.mem_cons_self, rfl⟩⟩
      · rw [hread] at h
        cases h
    · rw [set_of_unknown hexpiry hmode] at h
      cases h
      refine ⟨rfl, Or.inl ⟨?_, rfl⟩⟩
      simp [keys, hexpiry, hmode]

/-- Settings are changed after all that can be refused. -/
theorem failsWithin_set (key value : String) :
    Step.FailsWithin (fun before after => after = before) (set key value) :=
  fun _ _ _ h => (set_error_cases h).1

/-! ## Values that are shown -/

/-- **A value that is shown can be set, and changes nothing.** -/
theorem set_get? (hpos : 0 < s.expiryDays.toInt) (hkey : key ∈ keys) :
    ∃ text, s.get? key = some text ∧ (set key text).outcome s = (.ok (), s) := by
  rcases List.mem_pair.1 hkey with rfl | rfl
  · refine ⟨ofInt64 s.expiryDays, rfl, set_eq_ok_iff.2 ?_⟩
    have htext : (ofInt64 s.expiryDays).toList = digits s.expiryDays.toInt.natAbs := by
      rw [ofInt64, String.toList_ofList, integer, if_neg (by omega)]
    have hcount : IsCount (trim (ofInt64 s.expiryDays).toList) s.expiryDays.toInt.natAbs := by
      have hdigits := IsCount.digits (digits_ne_nil s.expiryDays.toInt.natAbs)
        fun _ hc => isDigit_of_mem_digits hc
      rwa [value_digits, ← trim_digits, ← htext] at hdigits
    exact .expiryDays hcount (by omega) (by omega)
  · refine ⟨s.matchMode.name, rfl, set_eq_ok_iff.2 ?_⟩
    have hname : trim s.matchMode.name.toList = s.matchMode.name.toList := by
      cases s.matchMode <;> decide
    refine .matchMode ?_
    rw [hname]
    exact sameIgnoringCase_refl _

end Settings

/-! ## Changes that are refused -/

namespace Session

open Step

/-- A change that is refused is reported, and nothing is written. -/
theorem runSettings_of_refused {folder : Path} {disk : Disk} {before after : Settings}
    {key value : String} {e : PrefsError} (hload : Settings.load disk folder = .ok before)
    (hset : (Settings.set key value).outcome before = (.error e, after)) :
    (runSettings folder (.change key value)).outcome disk =
      (.ok (Report.empty.say .error e.message), disk) := by
  rw [runSettings, outcome_bind (outcome_ofRead (Settings.load · folder) hload)]
  dsimp only
  rw [hset]
  rfl

/-- A session of which a change has been refused is as it was. -/
theorem configure_of_refused {s : Session} {before after : Settings} {key value : String}
    {e : PrefsError} (hload : Settings.load s.store.disk s.folder = .ok before)
    (hset : (Settings.set key value).outcome before = (.error e, after)) :
    (configure (.change key value)).outcome s =
      (.ok (Report.empty.say .error e.message), s) := by
  rw [outcome_configure (runSettings_of_refused hload hset)]
  rfl

end Session

/-- **What settings take, and what becomes of them.** Days are set exactly by a value that, trimmed,
is digits after an optional plus sign, worth one to the largest 64-bit integer; the mode exactly by
its name in letters of either case. Only what is named changes. Any other name is refused as
unknown, and any other value as invalid, with its name and as it was given. A change that is refused
leaves the settings as they were; a session that has read them reports the error and stays as it was
too. And settings with positive days take each value that they show, and are as before. -/
theorem Settings.set_exact (s : Settings) (value : String) :
    (∀ changed, (set "expiry-days" value).outcome s = (.ok (), changed) ↔
      ∃ n : Nat, IsCount (trim value.toList) n ∧ 1 ≤ n ∧ n ≤ 9223372036854775807 ∧
        changed = { s with expiryDays := Int64.ofNat n }) ∧
    (∀ changed, (set "match-mode" value).outcome s = (.ok (), changed) ↔
      SameIgnoringCase (trim value.toList) "overwrite".toList ∧
          changed = { s with matchMode := .overwrite } ∨
        SameIgnoringCase (trim value.toList) "accumulate".toList ∧
          changed = { s with matchMode := .accumulate }) ∧
    (∀ key, key ≠ "expiry-days" → key ≠ "match-mode" →
      (set key value).outcome s = (.error (.unknownSetting key), s)) ∧
    (∀ key ∈ ["expiry-days", "match-mode"], ∀ e after,
      (set key value).outcome s = (.error e, after) → e = .invalidValue key value) ∧
    (∀ key e after, (set key value).outcome s = (.error e, after) → after = s) ∧
    (∀ (held : Session) key e after, Settings.load held.store.disk held.folder = .ok s →
      (set key value).outcome s = (.error e, after) →
      (Session.configure (.change key value)).outcome held =
        (.ok (Report.empty.say .error e.message), held)) ∧
    (0 < s.expiryDays.toInt → ∀ key ∈ Settings.keys,
      ∃ text, s.get? key = some text ∧ (set key text).outcome s = (.ok (), s)) := by
  refine ⟨?_, ?_, ?_, ?_, ?_, ?_, ?_⟩
  · intro changed
    refine set_expiryKey_eq_ok_iff.trans ⟨?_, ?_⟩
    · rintro ⟨n, days, hcount, hn, hdays, hchanged⟩
      obtain ⟨hmax, rfl⟩ := toInt_eq_natCast_iff.1 hdays
      exact ⟨n, hcount, hn, hmax, hchanged⟩
    · rintro ⟨n, hcount, hn, hmax, hchanged⟩
      exact ⟨n, _, hcount, hn, toInt_eq_natCast_iff.2 ⟨hmax, rfl⟩, hchanged⟩
  · intro changed
    refine set_modeKey_eq_ok_iff.trans ⟨?_, ?_⟩
    · rintro ⟨mode, hname, hchanged⟩
      cases mode with
      | overwrite => exact Or.inl ⟨hname, hchanged⟩
      | accumulate => exact Or.inr ⟨hname, hchanged⟩
    · rintro (⟨hname, hchanged⟩ | ⟨hname, hchanged⟩)
      · exact ⟨.overwrite, hname, hchanged⟩
      · exact ⟨.accumulate, hname, hchanged⟩
  · intro key hexpiry hmode
    exact set_of_unknown hexpiry hmode s value
  · intro key hkey e after h
    rcases (set_error_cases h).2 with ⟨hunknown, -⟩ | ⟨-, he⟩
    · exact absurd hkey hunknown
    · exact he
  · intro key e after h
    exact failsWithin_set key value s e after h
  · intro held key e after hload hset
    exact Session.configure_of_refused hload hset
  · intro hpos key hkey
    exact set_get? hpos hkey

/-- A value with a minus sign, given to a session that holds other settings than are kept in its
folder. -/
theorem Settings.set_exact_minus_zero :
    let held := Session.withSettings ⟨.memory .empty, .empty⟩ ⟨["d"], .name, 1⟩ ⟨7, .accumulate⟩
    (set "colour" "-0").outcome standard = (.error (.unknownSetting "colour"), standard) ∧
    (∃ e after, (set "expiry-days" "-0").outcome standard = (.error e, after) ∧
      e = .invalidValue "expiry-days" "-0" ∧ after = standard ∧
      Settings.load held.store.disk held.folder = .ok standard ∧
      (Session.configure (.change "expiry-days" "-0")).outcome held =
        (.ok (Report.empty.say .error e.message), held)) ∧
    0 < standard.expiryDays.toInt ∧ "match-mode" ∈ keys ∧
    ∃ text, standard.get? "match-mode" = some text ∧
      (set "match-mode" text).outcome standard = (.ok (), standard) := by
  intro held
  obtain ⟨-, -, hunknown, hinvalid, hunchanged, hreported, hshown⟩ := set_exact standard "-0"
  have hrefused : (set "expiry-days" "-0").outcome standard =
      (.error (.invalidValue "expiry-days" "-0"), standard) := by decide
  have hload : Settings.load held.store.disk held.folder = .ok standard := by decide
  have hpos : 0 < standard.expiryDays.toInt := by decide
  have hkey : "match-mode" ∈ keys := by decide
  refine ⟨hunknown "colour" (by decide) (by decide), ⟨_, _, hrefused, ?_, ?_, hload, ?_⟩,
    hpos, hkey, hshown hpos "match-mode" hkey⟩
  · exact hinvalid "expiry-days" (by decide) _ _ hrefused
  · exact hunchanged "expiry-days" _ _ hrefused
  · exact hreported held "expiry-days" _ _ hload hrefused

end PlanViewer
