import PlanViewer.Proofs.KeptValues

/-!
# Reading the display preferences

What the viewer shows can be told from the values that can be read before the reading
(`ExpiringMap.display`), although the reading itself may store two defaults: the defaults go to
names of their own, and a toggle shows its default whether or not the default can be read back.

A layout is stored as three texts, and reading gives its numbers back. The reader takes the digits
for a positive number before it looks at the sign. So the least 64-bit integer, whose digits go
beyond the greatest one, is stored but not read back.
-/

namespace PlanViewer

open ExpiringMap Step

theorem PrefKey.name_ne_name {key other : PrefKey} (h : key ≠ other) : key.name ≠ other.name := by
  intro heq
  have hsame := congrArg PrefKey.ofText? heq
  simp only [PrefKey.ofText?_name, Option.some.injEq] at hsame
  exact h hsame

/-! ## What a map shows -/

namespace ExpiringMap

/-- The value under a name that can be read and is not empty. -/
def given? (m : ExpiringMap) (now : Instant) (name : String) : Option String :=
  (m.get? now name).filter fun v => decide (v ≠ "")

/-- The map after a default has been provided under a name: it is kept unless a value is given. -/
def provide (m : ExpiringMap) (now : Instant) (name default : String) (days : Int64) :
    ExpiringMap :=
  match m.given? now name with
  | some _ => m
  | none => m.set now name default days

/-- The map after both toggles have been provided with their defaults. -/
def provideToggles (m : ExpiringMap) (now : Instant) (days : Int64) : ExpiringMap :=
  (m.provide now PrefKey.showGenerated.name DisplayPrefs.generatedDefault days).provide now
    PrefKey.showExpanded.name DisplayPrefs.expandedDefault days

/-- The integer that the value under a name begins with. -/
def integer? (m : ExpiringMap) (now : Instant) (name : String) : Option Int64 :=
  (m.get? now name).bind Text.Decimal.leadingInt?

/-- What the viewer shows. -/
def display (m : ExpiringMap) (now : Instant) : DisplayPrefs where
  showGenerated := decide
    ((m.given? now PrefKey.showGenerated.name).getD DisplayPrefs.generatedDefault =
      DisplayPrefs.enabled)
  showExpanded := decide
    ((m.given? now PrefKey.showExpanded.name).getD DisplayPrefs.expandedDefault =
      DisplayPrefs.enabled)
  pixels := m.integer? now PrefKey.pixels.name
  height := m.integer? now PrefKey.height.name
  scale := m.integer? now PrefKey.scale.name
  custom := m.given? now PrefKey.custom.name

variable {m : ExpiringMap} {now : Instant} {name default : String} {days : Int64}

/-- Other names are not touched when a default is provided. -/
theorem get?_provide_of_ne {other : String} (hne : name ≠ other) :
    get? (m.provide now name default days) now other = m.get? now other := by
  unfold provide
  split
  · rfl
  · exact get?_set_of_ne m now now hne default days

theorem given?_provide_of_ne {other : String} (hne : name ≠ other) :
    given? (m.provide now name default days) now other = m.given? now other := by
  rw [given?, get?_provide_of_ne hne, given?]

/-- Only the toggles are touched when they are provided. -/
theorem get?_provideToggles {key : PrefKey} (hgenerated : key ≠ .showGenerated)
    (hexpanded : key ≠ .showExpanded) :
    get? (m.provideToggles now days) now key.name = m.get? now key.name := by
  rw [provideToggles, get?_provide_of_ne (PrefKey.name_ne_name hexpanded.symm),
    get?_provide_of_ne (PrefKey.name_ne_name hgenerated.symm)]

theorem integer?_provideToggles {key : PrefKey} (hgenerated : key ≠ .showGenerated)
    (hexpanded : key ≠ .showExpanded) :
    (m.provideToggles now days).integer? now key.name = m.integer? now key.name := by
  rw [integer?, get?_provideToggles hgenerated hexpanded, integer?]

/-- A default that has been kept is what is read, or nothing is. -/
theorem getD_get?_set (m : ExpiringMap) (now : Instant) (name default : String) (days : Int64) :
    (get? (m.set now name default days) now name).getD default = default := by
  rw [get?_set_self]
  split <;> rfl

end ExpiringMap

/-! ## What a store shows -/

namespace Store

variable {s : Store} {l : List Preference} {m : ExpiringMap} {now : Instant}

theorem Holds.value? (h : Holds s l) (hagree : Agree now (ofEntries l) m) (key : PrefKey) :
    (Store.value? now key).outcome s = (.ok (m.get? now key.name), s) := by
  show (s.get? now key.name, s) = _
  rw [h.get?_eq, hagree.get?_eq]

/-- Providing a default gives the value that is there, or the default. -/
theorem Holds.provide (h : Holds s l) (hagree : Agree now (ofEntries l) m) (key : PrefKey)
    (default : String) (days : Int64) :
    ∃ s' l', (DisplayPrefs.provide now key default days).outcome s =
        (.ok ((m.given? now key.name).getD default), s') ∧
      Holds s' l' ∧ Agree now (ofEntries l') (m.provide now key.name default days) := by
  rw [DisplayPrefs.provide, outcome_bind (h.value? hagree key), ExpiringMap.provide, given?]
  rcases (m.get? now key.name).filter fun v => decide (v ≠ "") with _ | value
  · obtain ⟨s', l', hset, hs', hagree'⟩ := h.set now key.name default days
    have hkept : Agree now (ofEntries l') (m.set now key.name default days) :=
      hagree'.trans (hagree.set now key.name default days)
    refine ⟨s', l', ?_, hs', hkept⟩
    dsimp only
    rw [outcome_bind hset, outcome_bind (hs'.value? hkept key), getD_get?_set]
    rfl
  · exact ⟨s, l, rfl, h, hagree⟩

theorem Holds.readInteger (h : Holds s l) (hagree : Agree now (ofEntries l) m) (key : PrefKey) :
    (DisplayPrefs.readInteger now key).outcome s = (.ok (m.integer? now key.name), s) := by
  rw [DisplayPrefs.readInteger, outcome_bind (h.value? hagree key)]
  rfl

/-- **Reading the display preferences** gives what the values before it show, and keeps no more than
the defaults of the toggles. -/
theorem Holds.load (h : Holds s l) (hagree : Agree now (ofEntries l) m) (days : Int64) :
    ∃ s' l', (DisplayPrefs.load now days).outcome s = (.ok (m.display now), s') ∧
      Holds s' l' ∧ Agree now (ofEntries l') (m.provideToggles now days) := by
  obtain ⟨s₁, l₁, hgenerated, hs₁, hagree₁⟩ :=
    h.provide hagree .showGenerated DisplayPrefs.generatedDefault days
  obtain ⟨s₂, l₂, hexpanded, hs₂, hagree₂⟩ :=
    hs₁.provide hagree₁ .showExpanded DisplayPrefs.expandedDefault days
  have htoggles : Agree now (ofEntries l₂) (m.provideToggles now days) := hagree₂
  -- what is read after the first toggle stands under other names than the defaults
  have hsecond :
      given? (m.provide now PrefKey.showGenerated.name DisplayPrefs.generatedDefault days) now
        PrefKey.showExpanded.name = m.given? now PrefKey.showExpanded.name :=
    given?_provide_of_ne (by decide)
  refine ⟨s₂, l₂, ?_, hs₂, htoggles⟩
  rw [DisplayPrefs.load, DisplayPrefs.provideGenerated, outcome_bind hgenerated,
    DisplayPrefs.provideExpanded, outcome_bind hexpanded,
    outcome_bind (hs₂.readInteger htoggles .pixels),
    outcome_bind (hs₂.readInteger htoggles .height),
    outcome_bind (hs₂.readInteger htoggles .scale), outcome_bind (hs₂.value? htoggles .custom)]
  rw [hsecond, integer?_provideToggles (by decide : PrefKey.pixels ≠ _) (by decide),
    integer?_provideToggles (by decide : PrefKey.height ≠ _) (by decide),
    integer?_provideToggles (by decide : PrefKey.scale ≠ _) (by decide),
    get?_provideToggles (by decide : PrefKey.custom ≠ _) (by decide)]
  rfl

end Store

/-! ## Numbers in texts -/

namespace Text.Decimal

theorem splitSign_digits {ds : List Char} (hds : ∀ c ∈ ds, isDigit c = true) (hne : ds ≠ []) :
    splitSign ds = (false, ds) := by
  obtain ⟨c, cs, rfl⟩ := List.exists_cons_of_ne_nil hne
  have hc := hds c List.mem_cons_self
  exact splitSign_of_ne (ne_of_isDigit hc (by decide)) (ne_of_isDigit hc (by decide)) cs

/-- The sign and the digits of a written integer are told apart again. -/
theorem splitSign_trimStart_integer (n : Int) :
    splitSign (trimStart (integer n)) = (decide (n < 0), digits n.natAbs) := by
  have hds : ∀ c ∈ digits n.natAbs, isDigit c = true := fun c hc => isDigit_of_mem_digits hc
  have hne := digits_ne_nil n.natAbs
  unfold integer
  by_cases hneg : n < 0
  · rw [if_pos hneg, trimStart_cons (by decide), decide_eq_true hneg]
    rfl
  · have htrim := trimStart_digits hds hne []
    rw [List.append_nil] at htrim
    rw [if_neg hneg, htrim, splitSign_digits hds hne, decide_eq_false hneg]

/-- **A written 64-bit integer is read back**, unless it is the least one. -/
theorem leadingInt?_ofInt64 (n : Int64) :
    leadingInt? (ofInt64 n) = if n = Int64.minValue then none else some n := by
  have htake : (digits n.toInt.natAbs).takeWhile isDigit = digits n.toInt.natAbs := by
    rw [List.takeWhile_eq_self_iff]
    exact fun c hc => isDigit_of_mem_digits hc
  have hlow := n.le_toInt
  have hhigh := n.toInt_lt
  have hmin : n = Int64.minValue ↔ n.toInt = -2 ^ 63 := by
    rw [← Int64.toInt_inj, Int64.toInt_minValue]
  have hsplit : splitSign (trimStart (ofInt64 n).toList) =
      (decide (n.toInt < 0), digits n.toInt.natAbs) := by
    rw [ofInt64, String.toList_ofList, splitSign_trimStart_integer]
  rw [leadingInt?_eq hsplit, htake, if_neg (digits_ne_nil _), value_digits, Int64.toInt_maxValue]
  by_cases hleast : n = Int64.minValue
  · rw [if_pos hleast, if_neg]
    rw [hmin] at hleast
    omega
  · have hsign : (if decide (n.toInt < 0) = true then -Int.ofNat n.toInt.natAbs
        else Int.ofNat n.toInt.natAbs) = n.toInt := by
      rw [Int.ofNat_eq_natCast]
      by_cases hneg : n.toInt < 0
      · rw [decide_eq_true hneg, if_pos rfl]
        omega
      · rw [decide_eq_false hneg, if_neg Bool.false_ne_true]
        omega
    rw [if_neg hleast, if_pos, hsign, Int64.ofInt_toInt]
    rw [hmin] at hleast
    omega

end Text.Decimal

/-! ## Layouts -/

/-- What is read of a layout number at the instant at which it is stored: the number, unless it is
the least one or time is at its end. -/
def DisplayPrefs.readBack (now : Instant) (n : Int64) : Option Int64 :=
  if now < .latest ∧ n ≠ Int64.minValue then some n else none

namespace ExpiringMap

variable {m : ExpiringMap} {now : Instant} {days : Int64}

theorem integer?_set_of_ne {kept name : String} (hne : kept ≠ name) (value : String) :
    integer? (m.set now kept value days) now name = m.integer? now name := by
  rw [integer?, get?_set_of_ne m now now hne, integer?]

theorem integer?_set_self (hdays : 0 < days.toInt) (name : String) (n : Int64) :
    integer? (m.set now name (Text.Decimal.ofInt64 n) days) now name =
      DisplayPrefs.readBack now n := by
  rw [integer?, get?_set_self, DisplayPrefs.readBack]
  by_cases hnow : now < .latest
  · simp [hdays, hnow, Text.Decimal.leadingInt?_ofInt64]
  · simp [hnow]

/-- The three numbers of a layout stand under names of their own. -/
theorem integer?_setLayout (hdays : 0 < days.toInt) (pixels height scale : Int64) :
    (m.setLayout now pixels height scale days).integer? now PrefKey.pixels.name =
        DisplayPrefs.readBack now pixels ∧
      (m.setLayout now pixels height scale days).integer? now PrefKey.height.name =
        DisplayPrefs.readBack now height ∧
      (m.setLayout now pixels height scale days).integer? now PrefKey.scale.name =
        DisplayPrefs.readBack now scale := by
  unfold setLayout
  refine ⟨?_, ?_, integer?_set_self hdays _ scale⟩
  · rw [integer?_set_of_ne (by decide), integer?_set_of_ne (by decide), integer?_set_self hdays]
  · rw [integer?_set_of_ne (by decide), integer?_set_self hdays]

end ExpiringMap

namespace DisplayPrefs

open Store

/-- **A layout that has been stored is read back.** In every store that keeps names once, when the
numbers of a layout have been stored for a positive number of days, reading the display preferences
at the same instant goes through and shows each of them; but for the least 64-bit integer nothing is
shown, and at the end of time nothing is shown at all. -/
theorem saveLayout_load_exact {s s' : Store} (hs : s.NamesOnce) {now : Instant}
    {pixels height scale days : Int64} (hdays : 0 < days.toInt)
    (hsave : (saveLayout now pixels height scale days).outcome s = (.ok (), s'))
    (again : Int64) :
    ∃ display s'', (load now again).outcome s' = (.ok display, s'') ∧
      display.pixels = readBack now pixels ∧ display.height = readBack now height ∧
      display.scale = readBack now scale := by
  -- the first number that is stored shows that the store takes all further changes
  obtain ⟨_, first, hset, -⟩ := ok_cases hsave
  obtain ⟨l, hholds⟩ := hs.holds_of_set hset
  obtain ⟨after, l', houtcome, hafter, hagree⟩ := hholds.saveLayout now pixels height scale days
  have hsame : s' = after := congrArg Prod.snd (hsave.symm.trans houtcome)
  subst hsame
  obtain ⟨s'', l'', hload, -, -⟩ := hafter.load hagree again
  exact ⟨_, s'', hload, integer?_setLayout hdays pixels height scale⟩

/-- The greatest integer and the one after the least are read back from a jar that held another
number and no toggle before. -/
theorem saveLayout_load_exact_both_ends :
    let s : Store := ⟨.cookies (.parse "showPixelsCookie=7"), .empty⟩
    (s.NamesOnce ∧ 0 < (1 : Int64).toInt) ∧
      ∃ s' display s'',
        (saveLayout .earliest Int64.maxValue (Int64.minValue + 1) 0 1).outcome s = (.ok (), s') ∧
        (load .earliest 0).outcome s' = (.ok display, s'') ∧
        display.pixels = some Int64.maxValue ∧ display.height = some (Int64.minValue + 1) ∧
        display.scale = some 0 := by
  intro s
  have hs : s.NamesOnce := by
    intro jar hjar
    cases hjar
    exact CookieJar.namesDistinct_parse _
  have hdays : 0 < (1 : Int64).toInt := by decide
  obtain ⟨s', hsave⟩ : ∃ s',
      (saveLayout .earliest Int64.maxValue (Int64.minValue + 1) 0 1).outcome s = (.ok (), s') :=
    ⟨_, rfl⟩
  obtain ⟨display, s'', hload, hpixels, hheight, hscale⟩ := saveLayout_load_exact hs hdays hsave 0
  exact ⟨⟨hs, hdays⟩, s', display, s'', hsave, hload, hpixels, hheight, hscale⟩

/-- The least integer is stored, and nothing is read back. -/
theorem least_layout_number_lost :
    ∃ s' display s'',
      (saveLayout .earliest Int64.minValue 30 2 365).outcome ⟨.memory .empty, .empty⟩ =
        (.ok (), s') ∧
      s'.get? .earliest PrefKey.pixels.name = .ok (some "-9223372036854775808") ∧
      (load .earliest 365).outcome s' = (.ok display, s'') ∧
      display.pixels ≠ some Int64.minValue ∧ display.height = some 30 ∧
      display.scale = some 2 :=
  ⟨_, _, _, rfl, by decide, rfl, by decide, by decide, by decide⟩

end DisplayPrefs

end PlanViewer
