import PlanViewer.Preference

/-!
# Catalogs

A catalog is a finite map from names to values with their expiries. It is kept as a list in
increasing order of names, so that two catalogs with the same entries are equal, and the list of
its live entries is sorted as it stands.
-/

namespace PlanViewer

/-- Preferences under distinct names, in increasing order of names. -/
structure Catalog where
  entries : List Preference
  sorted : entries.Pairwise fun a b => a.name < b.name
  deriving DecidableEq

namespace Catalog

/-- The catalog without entries. -/
def empty : Catalog :=
  ⟨[], .nil⟩

/-- The entry under a name. -/
def get? (c : Catalog) (name : String) : Option Preference :=
  c.entries.find? fun p => decide (p.name = name)

/-- Puts an entry at its place, instead of one of the same name. -/
def insertEntry (p : Preference) : List Preference → List Preference
  | [] => [p]
  | q :: rest =>
    if p.name < q.name then p :: q :: rest
    else if p.name = q.name then p :: rest
    else q :: insertEntry p rest

theorem mem_insertEntry {p x : Preference} {l : List Preference} (h : x ∈ insertEntry p l) :
    x = p ∨ x ∈ l := by
  induction l with
  | nil => simpa [insertEntry] using h
  | cons q rest ih =>
    rw [insertEntry] at h
    split at h
    · simpa using h
    · split at h
      · simp only [List.mem_cons] at h ⊢
        exact h.imp_right Or.inr
      · simp only [List.mem_cons] at h ⊢
        rcases h with h | h
        · exact Or.inr (Or.inl h)
        · exact (ih h).imp_right Or.inr

theorem name_lt_of_not_lt_of_ne {a b : String} (h : ¬ a < b) (hne : a ≠ b) : b < a := by
  have hle : b ≤ a := String.not_lt.1 h
  exact Classical.byContradiction fun hn => hne (String.le_antisymm (String.not_lt.1 hn) hle)

theorem pairwise_insertEntry {p : Preference} {l : List Preference}
    (h : l.Pairwise fun a b => a.name < b.name) :
    (insertEntry p l).Pairwise fun a b => a.name < b.name := by
  induction l with
  | nil => simp [insertEntry]
  | cons q rest ih =>
    rw [List.pairwise_cons] at h
    rw [insertEntry]
    split
    · next hlt =>
      refine List.pairwise_cons.2 ⟨fun x hx => ?_, List.pairwise_cons.2 h⟩
      rcases List.mem_cons.1 hx with rfl | hx
      · exact hlt
      · exact String.lt_trans hlt (h.1 x hx)
    · next hlt =>
      split
      · next heq => exact List.pairwise_cons.2 ⟨fun x hx => heq ▸ h.1 x hx, h.2⟩
      · next hne =>
        refine List.pairwise_cons.2 ⟨fun x hx => ?_, ih h.2⟩
        rcases mem_insertEntry hx with rfl | hx
        · exact name_lt_of_not_lt_of_ne hlt hne
        · exact h.1 x hx

/-- Puts an entry into a catalog, instead of one of the same name. -/
def insert (c : Catalog) (p : Preference) : Catalog :=
  ⟨insertEntry p c.entries, pairwise_insertEntry c.sorted⟩

/-- The entries that a test keeps. -/
def keep (c : Catalog) (test : Preference → Bool) : Catalog :=
  ⟨c.entries.filter test, c.sorted.filter test⟩

/-- A catalog without the entry under a name. -/
def erase (c : Catalog) (name : String) : Catalog :=
  c.keep fun p => decide (p.name ≠ name)

/-- The entries that can be read. -/
def live (c : Catalog) (now : Instant) : Catalog :=
  c.keep fun p => p.isLive now

/-- The value under a name, if it can be read. -/
def value? (c : Catalog) (now : Instant) (name : String) : Option String :=
  ((c.get? name).filter fun p => p.isLive now).map Preference.value

/-- The catalog of a list, a later entry in place of an earlier one of the same name. -/
def ofList (entries : List Preference) : Catalog :=
  entries.foldl insert empty

end Catalog

end PlanViewer
