import PlanViewer.Proofs.PreparedFolders
import PlanViewer.Proofs.Steps
import PlanViewer.TextFile

/-!
# Values that are saved and loaded

Whatever is kept in a file, its way to the disk and back is the same. A save that goes through
leaves a file that is read back to the text that was saved, and could have been one of any other
text; a save that fails leaves behind folders at most. What is loaded depends on nothing but what is
read of the file (`TextFile.load_congr`), so all that leaves this reading as it is leaves the value
as it is.
-/

namespace PlanViewer.TextFile

open Step

variable {name text : String} {folder : Path} {disk disk' : Disk}

/-! ## Saving -/

theorem outcome_save_eq (name : String) (folder : Path) (text : String) (disk : Disk) :
    (save name folder text).outcome disk =
      ((disk.save folder name text).1.mapError PrefsError.disk,
        (disk.save folder name text).2) :=
  rfl

theorem outcome_save_eq_ok_iff :
    (save name folder text).outcome disk = (.ok (), disk') ↔
      disk.save folder name text = (.ok (), disk') := by
  rw [outcome_save_eq]
  rcases disk.save folder name text with ⟨cause | _, saved⟩
  · exact ⟨fun h => (by cases h), fun h => (by cases h)⟩
  · exact ⟨fun h => (by cases h; rfl), fun h => (by cases h; rfl)⟩

theorem save_of_outcome_error {e : PrefsError}
    (h : (save name folder text).outcome disk = (.error e, disk')) :
    ∃ cause, e = .disk cause ∧ disk.save folder name text = (.error cause, disk') := by
  rw [outcome_save_eq] at h
  rcases hsave : disk.save folder name text with ⟨cause | _, saved⟩
  · rw [hsave] at h
    cases h
    exact ⟨cause, rfl, rfl⟩
  · rw [hsave] at h
    cases h

/-- A save that goes through could have been one of any other text. -/
theorem writable_of_outcome_save (hup : name ≠ "..")
    (h : (save name folder text).outcome disk = (.ok (), disk')) : disk.Writable folder name :=
  Disk.writable_of_save hup (congrArg Prod.fst (outcome_save_eq_ok_iff.1 h))

/-- Where a file can be saved it is, and then another one can be saved in its place. -/
theorem outcome_save (hup : name ≠ "..") (h : disk.Writable folder name) (text : String) :
    ∃ disk', (save name folder text).outcome disk = (.ok (), disk') ∧
      disk'.reading (folder.child name) = some (.ok text) ∧ disk'.Writable folder name := by
  obtain ⟨disk', hsave, hcontains, hread, hwritable⟩ := h.save hup text
  refine ⟨disk', outcome_save_eq_ok_iff.2 hsave, ?_, hwritable⟩
  rw [Disk.reading, if_pos hcontains, hread]

/-- **What has been saved is read back**, and another text can be saved in its place. -/
theorem reading_of_outcome_save (hup : name ≠ "..")
    (h : (save name folder text).outcome disk = (.ok (), disk')) :
    disk'.reading (folder.child name) = some (.ok text) ∧ disk'.Writable folder name := by
  obtain ⟨saved, hsaved, hreading⟩ := outcome_save hup (writable_of_outcome_save hup h) text
  rw [h] at hsaved
  cases hsaved
  exact hreading

/-- A save that fails leaves behind the folder, as far as it could be made. -/
theorem disk_of_outcome_save_error (hup : name ≠ "..") {e : PrefsError}
    (h : (save name folder text).outcome disk = (.error e, disk')) :
    disk' = disk.prepared folder := by
  obtain ⟨cause, -, hfailed⟩ := save_of_outcome_error h
  rcases Disk.save_cases hup disk folder text with ⟨_, hsave⟩ | ⟨here, -, hsave⟩
  · exact congrArg Prod.snd (hfailed.symm.trans hsave)
  · rw [hfailed] at hsave
    cases hsave

theorem failsWithin_save (name : String) (folder : Path) (text : String) :
    FailsWithin (Disk.Leaves folder name) (save name folder text) := by
  intro disk e disk' h
  obtain ⟨cause, -, hfailed⟩ := save_of_outcome_error h
  exact Disk.leaves_of_save hfailed

/-! ## Loading -/

variable {α : Type} {read : String → Except Json.Problem α} {missing value : α}

theorem load_of_reading_some {result : Except DiskError String}
    (h : disk.reading (folder.child name) = some result) :
    load name read missing disk folder =
      (result.mapError PrefsError.disk).bind fun text =>
        (read text).mapError PrefsError.content := by
  obtain ⟨hcontains, hread⟩ := Disk.readText_of_reading h
  rw [load, if_pos hcontains, hread]
  rfl

theorem load_of_not_contains (h : ¬ disk.contains (folder.child name) = true) :
    load name read missing disk folder = .ok missing := by
  rw [load, if_neg h]

theorem load_of_reading_none (h : disk.reading (folder.child name) = none) :
    load name read missing disk folder = .ok missing := by
  rw [Disk.reading] at h
  split at h
  · cases h
  · next hcontains => exact load_of_not_contains hcontains

/-- What is loaded from a folder depends on nothing but what is read of the file. -/
theorem load_congr
    (h : disk'.reading (folder.child name) = disk.reading (folder.child name)) :
    load name read missing disk' folder = load name read missing disk folder := by
  rcases hreading : disk.reading (folder.child name) with _ | result
  · rw [load_of_reading_none hreading, load_of_reading_none (h.trans hreading)]
  · rw [load_of_reading_some hreading, load_of_reading_some (h.trans hreading)]

theorem load_of_reading_error {cause : DiskError}
    (h : disk.reading (folder.child name) = some (.error cause)) :
    load name read missing disk folder = .error (.disk cause) :=
  load_of_reading_some h

theorem load_of_reading_ok (h : disk.reading (folder.child name) = some (.ok text))
    (hread : read text = .ok value) : load name read missing disk folder = .ok value := by
  rw [load_of_reading_some h]
  show (read text).mapError PrefsError.content = .ok value
  rw [hread]
  rfl

end PlanViewer.TextFile
