import PlanViewer.Proofs.JsonText
import PlanViewer.Proofs.TextFiles
import PlanViewer.Proofs.Timestamps
import PlanViewer.Store.PrefsFile

/-!
# Catalogs that are saved and loaded

The text of a catalog holds every value character by character and every expiry to the nanosecond,
so reading it gives the catalog back (`Catalog.ofJson_toJson`). Together with the way of a file to
the disk and back this says what a file store holds after each of its operations
(`PrefsFile.Keeps`): what it has been told to keep, without what has expired by then.
-/

namespace PlanViewer

open Json

/-! ## Catalogs from their entries -/

namespace Catalog

theorem eq_of_entries {c d : Catalog} (h : c.entries = d.entries) : c = d := by
  obtain ⟨entries, sorted⟩ := c
  cases h
  rfl

/-- A name above all others goes to the end. -/
theorem insertEntry_of_lt {p : Preference} {l : List Preference}
    (h : ∀ q ∈ l, q.name < p.name) : insertEntry p l = l ++ [p] := by
  induction l with
  | nil => rfl
  | cons q l ih =>
    have hq : q.name < p.name := h q List.mem_cons_self
    have hlt : ¬ p.name < q.name := fun h => String.lt_asymm hq h
    have hne : p.name ≠ q.name := fun h => String.lt_irrefl _ (h ▸ hq)
    rw [insertEntry, if_neg hlt, if_neg hne, ih fun r hr => h r (List.mem_cons_of_mem q hr)]
    rfl

theorem entries_foldl_insert {c : Catalog} {l : List Preference}
    (h : (c.entries ++ l).Pairwise fun a b => a.name < b.name) :
    (l.foldl insert c).entries = c.entries ++ l := by
  induction l generalizing c with
  | nil => exact (List.append_nil _).symm
  | cons p l ih =>
    -- all entries so far lie below the next one
    have hinsert : (c.insert p).entries = c.entries ++ [p] :=
      insertEntry_of_lt fun q hq =>
        (List.pairwise_append.1 h).2.2 q hq p List.mem_cons_self
    have happend : c.entries ++ p :: l = (c.insert p).entries ++ l := by
      rw [hinsert, List.append_assoc]
      rfl
    rw [happend] at h ⊢
    exact ih h

/-- A catalog is the catalog of its entries. -/
theorem ofList_entries (c : Catalog) : ofList c.entries = c :=
  eq_of_entries (entries_foldl_insert c.sorted)

/-! ## The text of a catalog -/

theorem instantValue_writeInstant (t : Instant) (rest : List Char) :
    instantValue (' ' :: (writeInstant t ++ rest)) = .ok (t, rest) := by
  have hread : Timestamp.read? (Timestamp.text t).toList = some t := by
    rw [Timestamp.text, String.toList_ofList, Timestamp.read?_write]
  rw [instantValue, writeInstant, stringValue_writeString, Except.bind]
  dsimp only
  rw [hread]

theorem membersRead_entry (p : Preference) :
    MembersRead Fields.step ⟨none, none⟩
      [("value", writeString p.value), ("expires_at", writeInstant p.expires)]
      ⟨some p.value, some p.expires⟩ := by
  have hvalue : ∀ rest, Fields.step ⟨none, none⟩ "value"
      (':' :: ' ' :: (writeString p.value ++ rest)) = .ok (⟨some p.value, none⟩, rest) := by
    intro rest
    rw [Fields.step, if_pos rfl, fieldValue_colon, stringValue_writeString]
    rfl
  have hexpires : ∀ rest, Fields.step ⟨some p.value, none⟩ "expires_at"
      (':' :: ' ' :: (writeInstant p.expires ++ rest)) =
        .ok (⟨some p.value, some p.expires⟩, rest) := by
    intro rest
    rw [Fields.step, if_neg (by decide), if_pos rfl, fieldValue_colon, instantValue_writeInstant]
    rfl
  exact .cons (fun rest _ => hvalue rest) (.cons (fun rest _ => hexpires rest) (.nil _))

theorem entryValue_writeEntry (p : Preference) (rest : List Char) :
    entryValue (' ' :: (writeEntry p ++ rest)) = .ok ((p.value, p.expires), rest) := by
  have hfinish : Fields.finish ⟨some p.value, some p.expires⟩ = .ok (p.value, p.expires) := rfl
  exact recordValue_writeLaidOut (membersRead_entry p) hfinish readElements 1 rest

theorem membersRead_entries (l : List Preference) (c : Catalog) :
    MembersRead
      (mapStep (fun (c : Catalog) name entry => c.insert ⟨name, entry.1, entry.2⟩) entryValue)
      c (l.map fun p => (p.name, writeEntry p)) (l.foldl insert c) := by
  induction l generalizing c with
  | nil => exact .nil c
  | cons p l ih =>
    refine .cons (fun rest _ => ?_) (ih (c.insert p))
    exact mapStep_colon (entryValue_writeEntry p rest) c p.name

/-- **The text of a catalog gives the catalog back.** -/
theorem ofJson_toJson (c : Catalog) : ofJson c.toJson = .ok c := by
  refine document_ofList ?_
  have hread := mapValue_writeLaidOut (membersRead_entries c.entries empty) 0 []
  rw [List.append_nil] at hread
  rw [jsonValue, hread]
  exact congrArg (fun c => Except.ok (c, [])) (ofList_entries c)

end Catalog

/-! ## The file of a folder -/

namespace PrefsFile

/-- The folder holds a catalog, and another one can be saved in its place. -/
structure Keeps (disk : Disk) (folder : Path) (c : Catalog) : Prop where
  load_eq : load disk folder = .ok c
  writable : disk.Writable folder fileName

variable {disk disk' : Disk} {folder : Path} {c : Catalog}

/-- What has been saved is what the folder holds. -/
theorem keeps_of_outcome_save (h : (save folder c).outcome disk = (.ok (), disk')) :
    Keeps disk' folder c := by
  obtain ⟨hreading, hwritable⟩ := TextFile.reading_of_outcome_save (by decide) h
  exact ⟨TextFile.load_of_reading_ok hreading (Catalog.ofJson_toJson c), hwritable⟩

/-- What is saved is what the folder holds from then on. -/
theorem outcome_save (h : disk.Writable folder fileName) (c : Catalog) :
    ∃ disk', (save folder c).outcome disk = (.ok (), disk') ∧ Keeps disk' folder c := by
  obtain ⟨disk', hsave, -⟩ := TextFile.outcome_save (by decide) h c.toJson
  exact ⟨disk', hsave, keeps_of_outcome_save hsave⟩

/-- **Keeping a value goes through**: the folder then holds it beside what has not expired. -/
theorem outcome_set (h : Keeps disk folder c) (now : Instant) (name value : String)
    (days : Int64) :
    ∃ disk', (set folder now name value days).outcome disk = (.ok (), disk') ∧
      Keeps disk' folder ((c.live now).insert (.keptFor now name value days)) := by
  rw [set, Step.outcome_bind (Step.outcome_ofRead (load · folder) h.load_eq)]
  exact outcome_save h.writable _

/-- **Removing a value goes through**: where there was one the folder then holds what is left and
has not expired, and otherwise what it held before. -/
theorem outcome_delete (h : Keeps disk folder c) (now : Instant) (name : String) :
    ∃ disk', (delete folder now name).outcome disk = (.ok (), disk') ∧
      Keeps disk' folder
        (if (c.get? name).isSome then (c.erase name).live now else c) := by
  rw [delete, Step.outcome_bind (Step.outcome_ofRead (load · folder) h.load_eq)]
  rcases hget : c.get? name with _ | p
  · exact ⟨disk, rfl, h⟩
  · exact outcome_save h.writable _

end PrefsFile

end PlanViewer
