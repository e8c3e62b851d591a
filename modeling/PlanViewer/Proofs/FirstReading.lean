import PlanViewer.Proofs.DisplayReading
import PlanViewer.Proofs.FileChanges
import PlanViewer.Proofs.OutgoingLines

/-!
# What the first reading leaves behind

Reading the display preferences provides a toggle with its default where no value, or an empty one,
can be read. What is shown does not depend on how long the defaults are kept, since a default counts
whether or not it can be read back. Of what can be read nothing changes but the toggles without a
value, and after that there is nothing left to provide: a second reading at the same instant writes
nothing, unless the defaults have expired at once. They have when the number of days is not
positive, and at the end of time, whatever it is.
-/

namespace PlanViewer

open ExpiringMap Step

/-! ## Stores in use -/

namespace Store

/-- The stores that a program can have: memory with anything in it, the jar of a page after any
calls, and a file in any folder of any disk. -/
inductive Attained : Store → Prop
  | memory (held : Memory) (disk : Disk) : Attained ⟨.memory held, disk⟩
  | cookies {start : CookieJar} (calls : List CookieJar.PageCall) (disk : Disk) :
      start.IsStart → Attained ⟨.cookies (start.run calls).2, disk⟩
  | file (folder : Path) (disk : Disk) : Attained ⟨.file folder, disk⟩

theorem Attained.namesOnce {s : Store} (h : s.Attained) : s.NamesOnce := by
  intro jar hjar
  cases h with
  | memory held disk => cases hjar
  | cookies calls disk hstart =>
    cases hjar
    exact CookieJar.namesDistinct_run hstart.namesDistinct calls
  | file folder disk => cases hjar

/-- A store that has provided a default, or has found a value in its place, takes changes: the value
has been read from a file that can be written, or the default has been written to it. -/
theorem NamesOnce.holds_of_provide {s s' : Store} {now : Instant} {key : PrefKey}
    {default value : String} {days : Int64} (hs : s.NamesOnce)
    (h : (DisplayPrefs.provide now key default days).outcome s = (.ok value, s')) :
    ∃ l, Holds s l := by
  obtain ⟨found, mid, hfound, hrest⟩ := ok_cases h
  obtain ⟨hget, rfl⟩ := Prod.mk.inj hfound
  rcases hgiven : found.filter fun v => decide (v ≠ "") with _ | given
  · rw [hgiven] at hrest
    obtain ⟨_, _, hset, -⟩ := ok_cases hrest
    exact hs.holds_of_set hset
  · obtain ⟨held | jar | folder, disk⟩ := s
    · exact ⟨_, .memory held disk⟩
    · exact ⟨_, .cookies disk (hs jar rfl)⟩
    · have hvalue : (PrefsFile.load disk folder).map (fun c => c.value? now key.name) =
          .ok found := hget
      rcases hload : PrefsFile.load disk folder with e | c
      · rw [hload] at hvalue
        cases hvalue
      · rw [hload] at hvalue
        have hsome : c.value? now key.name = some given :=
          (Except.ok.inj hvalue).trans (Option.filter_eq_some_iff.1 hgiven).1
        obtain ⟨p, hp, -⟩ := Option.map_eq_some_iff.1 hsome
        have hmem := (Catalog.get?_eq_some_iff.1 (Option.filter_eq_some_iff.1 hp).1).1
        exact ⟨_, .file (PrefsFile.keeps_of_mem_entries hload hmem)⟩

end Store

/-! ## What providing a default changes -/

/-- Nothing but empty values stands under the name. -/
def Lacks (l : List Preference) (name : String) : Prop :=
  ∀ p ∈ l, p.name = name → p.value = ""

namespace ExpiringMap

variable {m : ExpiringMap} {now : Instant} {name default : String} {days : Int64}

theorem lacks_list_iff : Lacks (m.list now) name ↔ m.given? now name = none := by
  rw [given?, get?, Option.filter_eq_none_iff]
  constructor
  · intro hlacks v hv
    obtain ⟨entry, hentry, rfl⟩ := Option.map_eq_some_iff.1 hv
    have hempty := hlacks ⟨name, entry.1, entry.2⟩ ((mem_list m now _).2 hentry) rfl
    simpa using hempty
  · rintro hnone p hp rfl
    have hget : (m.live? now p.name).map Prod.fst = some p.value := by
      rw [(mem_list m now p).1 hp]
      rfl
    simpa using hnone p.value hget

/-- The entry under a name after a default has been provided. -/
theorem live?_provide (other : String) :
    live? (m.provide now name default days) now other =
      if name = other ∧ m.given? now name = none then
        (some (default, now.expiry days)).filter fun e => decide (now < e.2)
      else m.live? now other := by
  unfold provide
  split
  · next v hgiven => simp [hgiven]
  · next hgiven => simp [hgiven, live?_set]

/-- A default that lasts is given from then on. -/
theorem given?_provide_self (hdays : 0 < days.toInt) (hnow : now < .latest)
    (hdefault : default ≠ "") :
    given? (m.provide now name default days) now name =
      some ((m.given? now name).getD default) := by
  unfold provide
  split
  · next v hgiven => rw [hgiven, Option.getD_some]
  · next hgiven =>
    rw [hgiven, given?, get?_set_self, if_pos ⟨hdays, hnow⟩, Option.filter_some,
      if_pos (decide_eq_true hdefault), Option.getD_none]

end ExpiringMap

/-! ## Both toggles -/

/-- The toggles and their defaults. -/
def DisplayPrefs.toggles : List (PrefKey × String) :=
  [(.showGenerated, generatedDefault), (.showExpanded, expandedDefault)]

namespace ExpiringMap

variable {m : ExpiringMap} {now : Instant} {days : Int64}

theorem live?_provideToggles (other : String) :
    live? (m.provideToggles now days) now other =
      if PrefKey.showExpanded.name = other ∧ m.given? now PrefKey.showExpanded.name = none then
        (some (DisplayPrefs.expandedDefault, now.expiry days)).filter fun e => decide (now < e.2)
      else if PrefKey.showGenerated.name = other ∧
          m.given? now PrefKey.showGenerated.name = none then
        (some (DisplayPrefs.generatedDefault, now.expiry days)).filter fun e => decide (now < e.2)
      else m.live? now other := by
  rw [provideToggles, live?_provide, given?_provide_of_ne (by decide), live?_provide]

theorem given?_provideToggles (hdays : 0 < days.toInt) (hnow : now < .latest) :
    given? (m.provideToggles now days) now PrefKey.showGenerated.name =
        some ((m.given? now PrefKey.showGenerated.name).getD DisplayPrefs.generatedDefault) ∧
      given? (m.provideToggles now days) now PrefKey.showExpanded.name =
        some ((m.given? now PrefKey.showExpanded.name).getD DisplayPrefs.expandedDefault) := by
  constructor
  · rw [provideToggles, given?_provide_of_ne (by decide),
      given?_provide_self hdays hnow (by decide)]
  · rw [provideToggles, given?_provide_self hdays hnow (by decide),
      given?_provide_of_ne (by decide)]

/-- Defaults that last show what was shown without them. -/
theorem display_provideToggles (hdays : 0 < days.toInt) (hnow : now < .latest) :
    (m.provideToggles now days).display now = m.display now := by
  obtain ⟨hgenerated, hexpanded⟩ := given?_provideToggles hdays hnow
  have hcustom : given? (m.provideToggles now days) now PrefKey.custom.name =
      m.given? now PrefKey.custom.name := by
    rw [given?, get?_provideToggles (by decide) (by decide), given?]
  unfold display
  rw [hgenerated, hexpanded, hcustom,
    integer?_provideToggles (by decide : PrefKey.pixels ≠ _) (by decide),
    integer?_provideToggles (by decide : PrefKey.height ≠ _) (by decide),
    integer?_provideToggles (by decide : PrefKey.scale ≠ _) (by decide)]
  rfl

/-- What can be read under a name after a default has been kept there. -/
theorem kept_eq_some_iff {default : String} {entry : String × Instant} :
    ((some (default, now.expiry days)).filter fun e => decide (now < e.2)) = some entry ↔
      entry = (default, now.expiry days) ∧ 0 < days.toInt ∧ now < .latest := by
  rw [Option.filter_eq_some_iff, decide_eq_true_eq, Option.some.injEq, eq_comm]
  constructor
  · rintro ⟨rfl, hlt⟩
    exact ⟨rfl, Instant.lt_expiry_iff now days |>.1 hlt⟩
  · rintro ⟨rfl, hlasts⟩
    exact ⟨rfl, (Instant.lt_expiry_iff now days).2 hlasts⟩

/-- **Toggles without a value** have their defaults after the reading, as far as these last. -/
theorem mem_list_provideToggles_of_lacks {toggle : PrefKey × String}
    (htoggle : toggle ∈ DisplayPrefs.toggles) (hlacks : Lacks (m.list now) toggle.1.name)
    {p : Preference} (hname : p.name = toggle.1.name) :
    p ∈ (m.provideToggles now days).list now ↔
      p = .keptFor now toggle.1.name toggle.2 days ∧ 0 < days.toInt ∧ now < .latest := by
  have hpair : (p.value, p.expires) = (toggle.2, now.expiry days) ↔
      p = .keptFor now toggle.1.name toggle.2 days := by
    obtain ⟨name, value, expires⟩ := p
    have hname : name = toggle.1.name := hname
    rw [Preference.keptFor, Preference.mk.injEq, Prod.mk.injEq, and_iff_right hname]
  rw [lacks_list_iff] at hlacks
  rw [mem_list, live?_provideToggles, ← hpair]
  rcases List.mem_pair.1 htoggle with rfl | rfl
  · rw [if_neg (fun h => absurd (h.1.trans hname) (by decide)), if_pos ⟨hname.symm, hlacks⟩,
      kept_eq_some_iff]
  · rw [if_pos ⟨hname.symm, hlacks⟩, kept_eq_some_iff]

/-- **All other entries** are read as before. -/
theorem mem_list_provideToggles_of_not_lacks {p : Preference}
    (h : ∀ toggle ∈ DisplayPrefs.toggles, p.name = toggle.1.name →
      ¬ Lacks (m.list now) toggle.1.name) :
    p ∈ (m.provideToggles now days).list now ↔ p ∈ m.list now := by
  have hexpanded := h (.showExpanded, DisplayPrefs.expandedDefault) (by decide)
  have hgenerated := h (.showGenerated, DisplayPrefs.generatedDefault) (by decide)
  rw [lacks_list_iff] at hexpanded hgenerated
  rw [mem_list, mem_list, live?_provideToggles, if_neg fun h => hexpanded h.1.symm h.2,
    if_neg fun h => hgenerated h.1.symm h.2]

end ExpiringMap

/-! ## Readings that write nothing -/

namespace Store

variable {s : Store} {l : List Preference} {m : ExpiringMap} {now : Instant}

theorem Holds.provide_of_given (h : Holds s l) (hagree : Agree now (ofEntries l) m) {key : PrefKey}
    {value : String} (hgiven : m.given? now key.name = some value) (default : String)
    (days : Int64) :
    (DisplayPrefs.provide now key default days).outcome s = (.ok value, s) := by
  rw [DisplayPrefs.provide, outcome_bind (h.value? hagree key)]
  rw [given?] at hgiven
  rw [hgiven]
  rfl

theorem readsOnly_readInteger (now : Instant) (key : PrefKey) :
    ReadsOnly (DisplayPrefs.readInteger now key) :=
  (ReadsOnly.ofRead _).bind fun _ => .pure _

/-- **Where both toggles have a value, reading changes nothing.** -/
theorem Holds.load_of_given (h : Holds s l) (hagree : Agree now (ofEntries l) m)
    {generated expanded : String}
    (hgenerated : m.given? now PrefKey.showGenerated.name = some generated)
    (hexpanded : m.given? now PrefKey.showExpanded.name = some expanded) (days : Int64) :
    (DisplayPrefs.load now days).outcome s = (.ok (m.display now), s) := by
  obtain ⟨s', l', hload, -, -⟩ := h.load hagree days
  have hsame : ((DisplayPrefs.load now days).outcome s).2 = s := by
    rw [DisplayPrefs.load, DisplayPrefs.provideGenerated,
      outcome_bind (h.provide_of_given hagree hgenerated _ days), DisplayPrefs.provideExpanded,
      outcome_bind (h.provide_of_given hagree hexpanded _ days)]
    -- what follows the toggles are readings
    exact ((readsOnly_readInteger now .pixels).bind fun _ =>
      (readsOnly_readInteger now .height).bind fun _ =>
        (readsOnly_readInteger now .scale).bind fun _ =>
          (ReadsOnly.ofRead _).bind fun _ => .pure _) s
  rw [hload] at hsame
  obtain rfl : s' = s := hsame
  exact hload

end Store

/-! ## What is shown -/

namespace ExpiringMap

variable {m : ExpiringMap} {now : Instant}

/-- A toggle is on if its value says so, or if its default does and there is no value that is not
empty. -/
theorem getD_given?_eq_enabled_iff {name default : String} :
    (m.given? now name).getD default = DisplayPrefs.enabled ↔
      m.get? now name = some "true" ∨
        default = "true" ∧ (m.get? now name = none ∨ m.get? now name = some "") := by
  have henabled : DisplayPrefs.enabled = "true" := rfl
  rw [given?, henabled]
  rcases m.get? now name with _ | value
  · simp
  · by_cases hempty : value = ""
    · subst hempty
      rw [Option.filter_some, if_neg (by decide), Option.getD_none]
      simp
    · rw [Option.filter_some, if_pos (decide_eq_true hempty), Option.getD_some]
      simp [hempty]

theorem showGenerated_display_iff :
    (m.display now).showGenerated = true ↔
      m.get? now PrefKey.showGenerated.name = some "true" := by
  rw [display, decide_eq_true_eq, getD_given?_eq_enabled_iff]
  simp [DisplayPrefs.generatedDefault]

theorem showExpanded_display_iff :
    (m.display now).showExpanded = true ↔
      m.get? now PrefKey.showExpanded.name = none ∨
        m.get? now PrefKey.showExpanded.name = some "" ∨
        m.get? now PrefKey.showExpanded.name = some "true" := by
  have hdefault : DisplayPrefs.expandedDefault = "true" := rfl
  rw [display, decide_eq_true_eq, getD_given?_eq_enabled_iff, and_iff_right hdefault, or_comm,
    or_assoc]

end ExpiringMap

namespace DisplayPrefs

open Store

/-- What is shown of the values that can be read. -/
structure Shows (prefs : DisplayPrefs) (value : PrefKey → Option String) : Prop where
  generated : prefs.showGenerated = true ↔ value .showGenerated = some "true"
  expanded : prefs.showExpanded = true ↔
    value .showExpanded = none ∨ value .showExpanded = some "" ∨ value .showExpanded = some "true"
  pixels : prefs.pixels = (value .pixels).bind Text.Decimal.leadingInt?
  height : prefs.height = (value .height).bind Text.Decimal.leadingInt?
  scale : prefs.scale = (value .scale).bind Text.Decimal.leadingInt?
  custom : prefs.custom = (value .custom).filter fun v => decide (v ≠ "")

theorem shows_display (m : ExpiringMap) (now : Instant) :
    (m.display now).Shows fun key => m.get? now key.name where
  generated := showGenerated_display_iff
  expanded := showExpanded_display_iff
  pixels := rfl
  height := rfl
  scale := rfl
  custom := rfl

/-- **The first reading shows what is there and provides what is missing.** Whenever reading the
display preferences goes through, it shows the values that can be read before it, and it goes
through with the same result for every other number of days. Of the entries that can be read it
changes those of the toggles that had no value or an empty one: before the end of time, and where
the number of days is positive, they are the defaults with the expiry of that many days, and
otherwise they are not there. All other entries stay as they are. If both toggles had a value the
store is as it was; and after defaults that last, every further reading at the same instant shows
the same and leaves the store as it is. -/
theorem load_exact {s s' : Store} (hs : s.Attained) {now : Instant} {days : Int64}
    {prefs : DisplayPrefs} (h : (load now days).outcome s = (.ok prefs, s')) :
    (∃ value, (∀ key : PrefKey, s.get? now key.name = .ok (value key)) ∧ prefs.Shows value) ∧
    (∀ other, ∃ s'', (load now other).outcome s = (.ok prefs, s'')) ∧
    (∃ before after, s.list now = .ok before ∧ s'.list now = .ok after ∧
      (∀ toggle ∈ toggles, Lacks before toggle.1.name → ∀ p, p.name = toggle.1.name →
        (p ∈ after ↔
          p = .keptFor now toggle.1.name toggle.2 days ∧ 0 < days.toInt ∧ now < .latest)) ∧
      (∀ p, (∀ toggle ∈ toggles, p.name = toggle.1.name → ¬ Lacks before toggle.1.name) →
        (p ∈ after ↔ p ∈ before)) ∧
      ((∀ toggle ∈ toggles, ¬ Lacks before toggle.1.name) → s' = s)) ∧
    (0 < days.toInt → now < .latest → ∀ again, (load now again).outcome s' = (.ok prefs, s')) := by
  obtain ⟨text, mid, hfirst, -⟩ := ok_cases h
  obtain ⟨l, hholds⟩ := hs.namesOnce.holds_of_provide hfirst
  have hagree : Agree now (ofEntries l) (ofEntries l) := .refl now _
  obtain ⟨after, l', hload, hafter, hagree'⟩ := hholds.load hagree days
  obtain ⟨hprefs, hstate⟩ := Prod.mk.inj (h.symm.trans hload)
  obtain rfl : prefs = (ofEntries l).display now := Except.ok.inj hprefs
  subst hstate
  refine ⟨⟨_, fun key => hholds.get?_eq now key.name, shows_display _ now⟩, ?_, ?_, ?_⟩
  · intro other
    obtain ⟨s'', _, hother, -⟩ := hholds.load hagree other
    exact ⟨s'', hother⟩
  · refine ⟨_, _, hholds.list_eq now, hafter.list_eq now, ?_, ?_, ?_⟩
    · intro toggle htoggle hlacks p hname
      rw [hagree'.list_eq]
      exact mem_list_provideToggles_of_lacks htoggle hlacks hname
    · intro p hp
      rw [hagree'.list_eq]
      exact mem_list_provideToggles_of_not_lacks hp
    · intro hnone
      obtain ⟨generated, hgenerated⟩ := Option.ne_none_iff_exists'.1 fun hgiven =>
        hnone (.showGenerated, generatedDefault) (by decide) (lacks_list_iff.2 hgiven)
      obtain ⟨expanded, hexpanded⟩ := Option.ne_none_iff_exists'.1 fun hgiven =>
        hnone (.showExpanded, expandedDefault) (by decide) (lacks_list_iff.2 hgiven)
      have hsame := hholds.load_of_given hagree hgenerated hexpanded days
      exact congrArg Prod.snd (h.symm.trans hsame)
  · intro hdays hnow again
    obtain ⟨hgenerated, hexpanded⟩ := given?_provideToggles (m := ofEntries l) hdays hnow
    have hagain := hafter.load_of_given hagree' hgenerated hexpanded again
    rwa [display_provideToggles hdays hnow] at hagain

/-- An empty toggle beside an entry of another name: the toggle gets its default, the entry stays,
and the second reading changes nothing. -/
theorem load_exact_empty_toggle :
    let other : Preference := ⟨"x", "1", .latest⟩
    let s : Store := ⟨.memory ⟨.ofList [⟨"showGenCookie", "", .latest⟩, other]⟩, .empty⟩
    (s.Attained ∧ 0 < (1 : Int64).toInt ∧ Instant.earliest < .latest) ∧
      ∃ prefs s' after, (load .earliest 1).outcome s = (.ok prefs, s') ∧
        prefs.showGenerated = false ∧ prefs.showExpanded = true ∧
        s'.list .earliest = .ok after ∧
        .keptFor .earliest "showGenCookie" "false" 1 ∈ after ∧ other ∈ after ∧
        (load .earliest 1).outcome s' = (.ok prefs, s') := by
  intro other s
  have hs : s.Attained := .memory _ _
  have hdays : 0 < (1 : Int64).toInt := by decide
  have hnow : Instant.earliest < .latest := by decide
  obtain ⟨s', _, hload, -, -⟩ := (Holds.memory _ _ : Holds s _).load (.refl .earliest _) 1
  obtain ⟨⟨value, hvalue, hshows⟩, -, ⟨before, after, hbefore, hafter, hlacking, hothers, -⟩,
    hagain⟩ := load_exact hs hload
  have hempty : s.get? .earliest PrefKey.showGenerated.name = .ok (some "") := by decide
  have habsent : s.get? .earliest PrefKey.showExpanded.name = .ok none := by decide
  have hlist : s.list .earliest = .ok [⟨"showGenCookie", "", .latest⟩, other] := by decide
  have hgenerated : value .showGenerated = some "" :=
    Except.ok.inj ((hvalue .showGenerated).symm.trans hempty)
  have hexpanded : value .showExpanded = none :=
    Except.ok.inj ((hvalue .showExpanded).symm.trans habsent)
  obtain rfl : [⟨"showGenCookie", "", .latest⟩, other] = before :=
    Except.ok.inj (hlist.symm.trans hbefore)
  refine ⟨⟨hs, hdays, hnow⟩, _, s', after, hload, ?_, ?_, hafter, ?_, ?_, hagain hdays hnow 1⟩
  · rw [← Bool.not_eq_true, hshows.generated, hgenerated]
    decide
  · rw [hshows.expanded]
    exact Or.inl hexpanded
  · have hlacks : Lacks [⟨"showGenCookie", "", .latest⟩, other] PrefKey.showGenerated.name := by
      intro p hp
      rcases List.mem_pair.1 hp with rfl | rfl
      · exact fun _ => rfl
      · exact fun hname => absurd hname (by decide)
    exact (hlacking (.showGenerated, generatedDefault) (by decide) hlacks _ rfl).2
      ⟨rfl, hdays, hnow⟩
  · refine (hothers other ?_).2 (by decide)
    intro toggle htoggle hname
    rcases List.mem_pair.1 htoggle with rfl | rfl
    · exact absurd hname (by decide)
    · exact absurd hname (by decide)

/-- At the end of time a day more is no time at all: defaults that are kept for one day have expired
at once, so none of them can be read, and the second reading hands the same lines to the browser
again. -/
theorem defaults_lost_at_latest :
    let s : Store := ⟨.cookies .empty, .empty⟩
    (s.Attained ∧ 0 < (1 : Int64).toInt) ∧
      ∃ prefs first second,
        (load .latest 1).outcome s = (.ok prefs, ⟨.cookies first, .empty⟩) ∧
        (Store.mk (.cookies first) .empty).list .latest = .ok [] ∧
        (load .latest 1).outcome ⟨.cookies first, .empty⟩ =
          (.ok prefs, ⟨.cookies second, .empty⟩) ∧
        first.outgoing = [.assign "showGenCookie" "false" .latest,
          .assign "showLineCookie" "true" .latest] ∧
        second.outgoing = first.outgoing ++ first.outgoing := by
  intro s
  have hs : s.Attained := .cookies [] .empty (Or.inl rfl)
  refine ⟨⟨hs, by decide⟩, _, _, _, rfl, ?_, rfl, ?_, ?_⟩
  · exact congrArg Except.ok List.mergeSort_nil
  · decide
  · decide

end DisplayPrefs

end PlanViewer
