import PlanViewer.Proofs.SavedPreferences

/-!
# What a change makes of the file

A change reads the whole file, drops what has expired, puts in or takes out the one entry it is
about, and writes the whole file. An entry is put in after the dropping, so it is in the file even
if it has expired at once; and whether there is an entry to take out is asked before it, so an
expired one is taken out, and makes the change a writing one. Where there is none nothing is
written.

All other entries that have not expired pass through every change as they are. For them no change
fails either: a file that has been read can be written in its place
(`PrefsFile.keeps_of_mem_entries`).
-/

namespace PlanViewer

/-! ## Entries of a changed catalog -/

namespace Catalog

variable {c : Catalog} {now : Instant}

theorem get?_eq_some_iff {p : Preference} {name : String} :
    c.get? name = some p ↔ p ∈ c.entries ∧ p.name = name :=
  c.namesDistinct.find?_eq_some_iff

theorem get?_live (name : String) :
    (c.live now).get? name = (c.get? name).filter fun p => decide (now < p.expires) := by
  have htest : (fun p : Preference => p.isLive now) = fun p => decide (now < p.expires) := by
    funext p
    rw [Bool.eq_iff_iff, decide_eq_true_eq, Preference.isLive_iff]
  rw [← htest]
  exact c.namesDistinct.find?_filter _ name

theorem get?_insert (p : Preference) (name : String) :
    (c.insert p).get? name = if p.name = name then some p else c.get? name :=
  find?_insertEntry p c.entries name

theorem get?_erase (removed name : String) :
    (c.erase removed).get? name = if removed = name then none else c.get? name :=
  find?_filter_name_ne c.entries removed name

end Catalog

/-! ## Files that have been read -/

/-- A file that has been read can be written in its place. -/
theorem Disk.takes_of_readText {d : Disk} {folder : Path} {name text : String} (hup : name ≠ "..")
    (h : d.readText (folder.child name) = .ok text) : ∃ here, d.Takes folder name here := by
  have hspot : ∃ place, (d.locate (folder.child name)).spot? = some place := by
    rw [readText] at h
    rcases hlocate : d.locate (folder.child name) with ⟨place, _ | bytes⟩ | place | _ | _ | _
    · rw [hlocate] at h
      cases h
    · exact ⟨place, rfl⟩
    all_goals
      rw [hlocate] at h
      cases h
  obtain ⟨place, hplace⟩ := hspot
  have hwrite : d.writeText (folder.child name) text = .ok (d.put place (.file text.toUTF8)) :=
    writeText_eq_ok_iff.2 ⟨place, hplace, rfl⟩
  obtain ⟨here, htakes, -⟩ := takes_of_writeText hup hwrite
  exact ⟨here, htakes⟩

namespace PrefsFile

variable {disk disk' : Disk} {folder : Path} {c : Catalog} {now : Instant} {name : String}

/-- Entries come from a file, so others can be saved in their place. -/
theorem keeps_of_mem_entries (hload : load disk folder = .ok c) {p : Preference}
    (hp : p ∈ c.entries) : Keeps disk folder c := by
  refine ⟨hload, ?_⟩
  rcases hreading : disk.reading (folder.child fileName) with _ | cause | text
  · cases hload.symm.trans (TextFile.load_of_reading_none hreading)
    exact absurd hp List.not_mem_nil
  · cases hload.symm.trans (TextFile.load_of_reading_error hreading)
  · obtain ⟨-, hread⟩ := Disk.readText_of_reading hreading
    obtain ⟨here, htakes⟩ := Disk.takes_of_readText (by decide) hread
    exact htakes.writable

/-! ## One change -/

theorem load_of_set {value : String} {days : Int64} (hload : load disk folder = .ok c)
    (h : (set folder now name value days).outcome disk = (.ok (), disk')) :
    load disk' folder = .ok ((c.live now).insert (.keptFor now name value days)) := by
  rw [set, Step.outcome_bind (Step.outcome_ofRead (load · folder) hload)] at h
  exact (keeps_of_outcome_save h).load_eq

theorem load_of_delete (hload : load disk folder = .ok c) (hname : c.get? name ≠ none)
    (h : (delete folder now name).outcome disk = (.ok (), disk')) :
    load disk' folder = .ok ((c.erase name).live now) := by
  rw [delete, Step.outcome_bind (Step.outcome_ofRead (load · folder) hload)] at h
  rcases hget : c.get? name with _ | p
  · exact absurd hget hname
  · rw [hget] at h
    exact (keeps_of_outcome_save h).load_eq

theorem outcome_delete_of_absent (hload : load disk folder = .ok c) (hname : c.get? name = none)
    (now : Instant) : (delete folder now name).outcome disk = (.ok (), disk) := by
  rw [delete, Step.outcome_bind (Step.outcome_ofRead (load · folder) hload), hname]
  rfl

theorem get?_after_set (c : Catalog) (now : Instant) (name value : String) (days : Int64)
    (other : String) :
    ((c.live now).insert (.keptFor now name value days)).get? other =
      if name = other then some ⟨name, value, now.expiry days⟩
      else (c.get? other).filter fun p => decide (now < p.expires) := by
  rw [Catalog.get?_insert, Catalog.get?_live]
  rfl

theorem get?_after_delete (c : Catalog) (now : Instant) (name other : String) :
    ((c.erase name).live now).get? other =
      if name = other then none else (c.get? other).filter fun p => decide (now < p.expires) := by
  rw [Catalog.get?_live, Catalog.get?_erase]
  split <;> rfl

/-! ## Changes in a row -/

/-- A change of the file. -/
inductive Change where
  | set (name value : String) (days : Int64)
  | delete (name : String)

/-- The name that a change is about. -/
def Change.target : Change → String
  | .set name _ _ => name
  | .delete name => name

/-- Makes a change. -/
def Change.perform (folder : Path) (now : Instant) : Change → Step Disk Unit
  | .set name value days => PrefsFile.set folder now name value days
  | .delete name => PrefsFile.delete folder now name

/-- Makes changes one after another, each at its own reading of the clock. -/
def performAll (folder : Path) : List (Instant × Change) → Step Disk Unit
  | [] => return ()
  | (now, change) :: rest => do
    change.perform folder now
    performAll folder rest

/-- **One change** goes through where there is an entry of another name that has not expired, and
leaves that entry as it is. -/
theorem perform_keeps_entry (hload : load disk folder = .ok c) {p : Preference}
    (hp : p ∈ c.entries) {change : Change} (hother : change.target ≠ p.name)
    (hlive : now < p.expires) :
    ∃ disk' c', (change.perform folder now).outcome disk = (.ok (), disk') ∧
      load disk' folder = .ok c' ∧ p ∈ c'.entries := by
  have hkeeps := keeps_of_mem_entries hload hp
  have hget : c.get? p.name = some p := Catalog.get?_eq_some_iff.2 ⟨hp, rfl⟩
  have hleft : (c.get? p.name).filter (fun q => decide (now < q.expires)) = some p := by
    rw [hget, Option.filter_some, if_pos (decide_eq_true hlive)]
  have hmem : ∀ {c' : Catalog}, c'.get? p.name = some p → p ∈ c'.entries :=
    fun h => (Catalog.get?_eq_some_iff.1 h).1
  cases change with
  | set name value days =>
    have hne : name ≠ p.name := hother
    obtain ⟨disk', houtcome, hkeeps'⟩ := outcome_set hkeeps now name value days
    refine ⟨disk', _, houtcome, hkeeps'.load_eq, hmem ?_⟩
    rw [get?_after_set, if_neg hne, hleft]
  | delete name =>
    have hne : name ≠ p.name := hother
    obtain ⟨disk', houtcome, hkeeps'⟩ := outcome_delete hkeeps now name
    refine ⟨disk', _, houtcome, hkeeps'.load_eq, ?_⟩
    split
    · refine hmem ?_
      rw [get?_after_delete, if_neg hne, hleft]
    · exact hp

/-- **Changes in a row.** -/
theorem performAll_keeps_entry (hload : load disk folder = .ok c) {p : Preference}
    (hp : p ∈ c.entries) {changes : List (Instant × Change)}
    (hchanges : ∀ x ∈ changes, x.2.target ≠ p.name ∧ x.1 < p.expires) :
    ∃ disk' c', (performAll folder changes).outcome disk = (.ok (), disk') ∧
      load disk' folder = .ok c' ∧ p ∈ c'.entries := by
  induction changes generalizing disk c with
  | nil => exact ⟨disk, c, rfl, hload, hp⟩
  | cons x changes ih =>
    obtain ⟨now, change⟩ := x
    obtain ⟨hother, hlive⟩ := hchanges _ List.mem_cons_self
    obtain ⟨mid, c₁, houtcome, hload₁, hp₁⟩ := perform_keeps_entry hload hp hother hlive
    obtain ⟨disk', c', hrest, hend⟩ :=
      ih hload₁ hp₁ fun y hy => hchanges y (List.mem_cons_of_mem _ hy)
    refine ⟨disk', c', ?_, hend⟩
    rw [performAll, Step.outcome_bind houtcome, hrest]

/-- **What a change makes of the file.** Let a folder be loaded, with or without a file in it. When
a value has then been kept, exactly that value is loaded under its name, whatever its expiry, and
under any other name what was there and has not expired. When a value has been removed that was
there, expired or not, nothing is loaded under its name, and under any other name what has not
expired. Removing a value that is not there leaves the disk as it is. And an entry goes through any
number of changes of other names before it expires: all of them are made, and it is loaded with its
value and expiry afterwards. -/
theorem change_exact (hload : load disk folder = .ok c) (now : Instant) (name : String) :
    (∀ value days disk', (set folder now name value days).outcome disk = (.ok (), disk') →
      ∃ c', load disk' folder = .ok c' ∧ ∀ other, c'.get? other =
        if name = other then some ⟨name, value, now.expiry days⟩
        else (c.get? other).filter fun p => decide (now < p.expires)) ∧
    (c.get? name ≠ none →
      ∀ disk', (delete folder now name).outcome disk = (.ok (), disk') →
        ∃ c', load disk' folder = .ok c' ∧ ∀ other, c'.get? other =
          if name = other then none
          else (c.get? other).filter fun p => decide (now < p.expires)) ∧
    (c.get? name = none → (delete folder now name).outcome disk = (.ok (), disk)) ∧
    ∀ p ∈ c.entries, ∀ changes : List (Instant × Change),
      (∀ x ∈ changes, x.2.target ≠ p.name ∧ x.1 < p.expires) →
      ∃ disk' c', (performAll folder changes).outcome disk = (.ok (), disk') ∧
        load disk' folder = .ok c' ∧ p ∈ c'.entries := by
  refine ⟨?_, ?_, ?_, ?_⟩
  · intro value days disk' hset
    exact ⟨_, load_of_set hload hset, get?_after_set c now name value days⟩
  · intro hname disk' hdelete
    exact ⟨_, load_of_delete hload hname hdelete, get?_after_delete c now name⟩
  · intro hname
    exact outcome_delete_of_absent hload hname now
  · intro p hp changes hchanges
    exact performAll_keeps_entry hload hp hchanges

/-- A folder is made for a value that lasts, and then a second one is kept that has expired at once.
It is in the file beside the first, which all of this leaves as it is. -/
theorem change_exact_expired_at_once :
    let folder : Path := ⟨["d"], .name, 1⟩
    let lasting : Preference := ⟨"a", "1", Instant.earliest.expiry 1⟩
    ∃ disk c, load disk folder = .ok c ∧ lasting ∈ c.entries ∧ c.get? "b" = none ∧
      Instant.earliest < lasting.expires ∧
      (delete folder .earliest "b").outcome disk = (.ok (), disk) ∧
      ∃ disk' c', (set folder .earliest "b" "2" 0).outcome disk = (.ok (), disk') ∧
        load disk' folder = .ok c' ∧ c'.get? "b" = some ⟨"b", "2", Instant.earliest.expiry 0⟩ ∧
        c'.get? "a" = some lasting ∧
        (∃ disk'' c'', (delete folder .earliest "b").outcome disk' = (.ok (), disk'') ∧
          load disk'' folder = .ok c'' ∧ c''.get? "b" = none ∧ c''.get? "a" = some lasting) ∧
        ∃ disk'' c'', (performAll folder [(.earliest, .set "c" "3" 1),
            (.earliest, .delete "b")]).outcome disk' = (.ok (), disk'') ∧
          load disk'' folder = .ok c'' ∧ lasting ∈ c''.entries := by
  intro folder lasting
  have hahead : Instant.earliest < lasting.expires := by decide
  have hsave : (Disk.empty.save folder fileName "").1 = .ok () := by decide
  have hempty : Keeps .empty folder .empty := ⟨rfl, Disk.writable_of_save (by decide) hsave⟩
  obtain ⟨disk, hset, hkeeps⟩ := outcome_set hempty .earliest "a" "1" 1
  obtain ⟨c, hload, hget⟩ := (change_exact hempty.load_eq .earliest "a").1 _ _ _ hset
  have hlasting : c.get? "a" = some lasting := hget "a"
  have habsent : c.get? "b" = none := hget "b"
  have hmem : lasting ∈ c.entries := (Catalog.get?_eq_some_iff.1 hlasting).1
  obtain ⟨hkept, -, hnothing, -⟩ := change_exact hload .earliest "b"
  obtain ⟨disk', hset', hkeeps'⟩ :=
    outcome_set (keeps_of_mem_entries hload hmem) .earliest "b" "2" 0
  obtain ⟨c', hload', hgetNext⟩ := hkept _ _ _ hset'
  have hexpired : c'.get? "b" = some ⟨"b", "2", Instant.earliest.expiry 0⟩ := hgetNext "b"
  have hstill : c'.get? "a" = some lasting := by
    rw [hgetNext "a", if_neg (by decide), hlasting, Option.filter_some,
      if_pos (decide_eq_true hahead)]
  obtain ⟨disk'', hdelete, -⟩ := outcome_delete hkeeps' .earliest "b"
  obtain ⟨-, hremoved, -, hrow⟩ := change_exact hload' .earliest "b"
  obtain ⟨c'', hload'', hgetLast⟩ :=
    hremoved (by rw [hexpired]; exact Option.some_ne_none _) _ hdelete
  refine ⟨disk, c, hload, hmem, habsent, hahead, hnothing habsent, disk', c', hset', hload',
    hexpired, hstill, ⟨disk'', c'', hdelete, hload'', hgetLast "b", ?_⟩, ?_⟩
  · rw [hgetLast "a", if_neg (by decide), hstill, Option.filter_some,
      if_pos (decide_eq_true hahead)]
  · refine hrow lasting (Catalog.get?_eq_some_iff.1 hstill).1 _ ?_
    intro x hx
    rcases List.mem_pair.1 hx with rfl | rfl
    · exact ⟨by decide, hahead⟩
    · exact ⟨by decide, hahead⟩

end PrefsFile

end PlanViewer
