import Mathlib.Data.Finmap
import PlanViewer.Proofs.ExpiringMap
import PlanViewer.Proofs.MakingFolders
import PlanViewer.Proofs.SavedCatalog

/-!
# Preferences that are saved and loaded

A save that goes through leaves a file from which exactly the saved preferences are loaded, whatever
texts and expiries they have. Whether it goes through is decided by the disk alone: in a folder that
takes one file, or that can be made, any preferences can be saved (`PrefsFile.load_save_exact`).
-/

namespace PlanViewer

open ExpiringMap

/-! ## Finite maps as catalogs -/

namespace Catalog

/-- Every finite map is the map of a catalog. -/
theorem exists_ofEntries_eq (m : ExpiringMap) : ∃ c : Catalog, ofEntries c.entries = m := by
  induction m using Finmap.induction_on with
  | _ entries =>
    -- a map is built by insertions under new names, and so is a catalog
    induction entries using AList.insertRec with
    | H0 => exact ⟨empty, rfl⟩
    | IH name entry rest _ ih =>
      obtain ⟨c, hc⟩ := ih
      refine ⟨c.insert ⟨name, entry.1, entry.2⟩, ?_⟩
      have hinsert : ofEntries (c.insert ⟨name, entry.1, entry.2⟩).entries =
          (ofEntries c.entries).insert name entry :=
        ofEntries_eq_insert fun other => find?_insertEntry _ _ other
      rw [hinsert, hc, Finmap.insert_toFinmap]

end Catalog

/-! ## Folders that receive a file -/

/-- A file can be written into the folder, which is there or is missing together with all that
follows on the way to it. -/
def Disk.Receives (d : Disk) (folder : Path) (file : String) : Prop :=
  (∃ here, d.Takes folder file here) ∨
    ∃ known name rest here, d.Approach folder file known (name :: rest) here ∧
      d.node? (here ++ [name]) = none

theorem Disk.Receives.writable {d : Disk} {folder : Path} {file : String}
    (h : d.Receives folder file) (htree : d.IsTree) : d.Writable folder file := by
  rcases h with ⟨here, htakes⟩ | ⟨known, name, rest, here, happroach, hnone⟩
  · exact htakes.writable
  · exact happroach.writable_of_none htree hnone

namespace PrefsFile

/-- **What is saved is loaded.** Every finite map of names to values and expiries is the map of a
catalog. When a catalog has been saved, loading the folder gives just that catalog. And a catalog
can be saved whenever any other could be in its place, in particular into a folder that is there and
takes a file, and into one that is missing together with folders on the way to it. -/
theorem load_save_exact :
    (∀ m : ExpiringMap, ∃ c : Catalog, ofEntries c.entries = m) ∧
      ∀ (c : Catalog) (disk : Disk) (folder : Path),
        (∀ disk', (save folder c).outcome disk = (.ok (), disk') → load disk' folder = .ok c) ∧
        ((∃ other disk', (save folder other).outcome disk = (.ok (), disk')) ∨
            disk.IsTree ∧ disk.Receives folder fileName →
          ∃ disk', (save folder c).outcome disk = (.ok (), disk') ∧ load disk' folder = .ok c) := by
  refine ⟨Catalog.exists_ofEntries_eq, ?_⟩
  intro c disk folder
  refine ⟨fun disk' h => (keeps_of_outcome_save h).load_eq, ?_⟩
  intro hopen
  have hwritable : disk.Writable folder fileName := by
    rcases hopen with ⟨other, disk', h⟩ | ⟨htree, hreceives⟩
    · exact TextFile.writable_of_outcome_save (by decide) h
    · exact hreceives.writable htree
  obtain ⟨disk', hsave, hkeeps⟩ := outcome_save hwritable c
  exact ⟨disk', hsave, hkeeps.load_eq⟩

/-- Two missing folders are made for an empty name with a leap second before the end of time, and
for marks, controls and an astral character that expire at the start of time. -/
theorem load_save_exact_missing_folders :
    (Disk.empty.IsTree ∧ Disk.empty.Receives ⟨["a", "b"], .name, 4⟩ fileName) ∧
      ∃ disk', (save ⟨["a", "b"], .name, 4⟩ (.ofList
          [⟨"", "", ⟨Instant.maxSeconds, 1999999999, by decide, by decide⟩⟩,
            ⟨"\"\\\x00", "\t😀\x1f", .earliest⟩])).outcome .empty = (.ok (), disk') ∧
        load disk' ⟨["a", "b"], .name, 4⟩ = .ok (.ofList
          [⟨"", "", ⟨Instant.maxSeconds, 1999999999, by decide, by decide⟩⟩,
            ⟨"\"\\\x00", "\t😀\x1f", .earliest⟩]) := by
  have hplain : ∀ n ∈ ["a", "b"], Disk.IsPlainName n := by decide
  have hreceives : Disk.empty.Receives ⟨["a", "b"], .name, 4⟩ fileName :=
    Or.inr ⟨[], "a", ["b"], [],
      ⟨rfl, .here [], hplain, rfl, by decide, by decide⟩, rfl⟩
  exact ⟨⟨Disk.isTree_empty, hreceives⟩,
    (load_save_exact.2 _ _ _).2 (Or.inr ⟨Disk.isTree_empty, hreceives⟩)⟩

end PrefsFile

end PlanViewer
