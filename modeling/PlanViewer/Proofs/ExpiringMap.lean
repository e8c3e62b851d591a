import Mathlib.Data.Finmap
import Mathlib.Data.Finset.Sort
import Mathlib.Data.String.Basic
import PlanViewer.Proofs.PreferenceLists

/-!
# Expiring maps

What a store is for: a finite map from names to values with expiries, in which an entry can be read
as long as its expiry lies ahead. Entries that have expired may stay in the map, but they can never
be read again, since time does not run backwards. So two maps that can be told apart at no name now
cannot be told apart later (`ExpiringMap.Agree`), and it makes no difference whether expired entries
are dropped.
-/

namespace PlanViewer

namespace Instant

theorem earliest_le (a : Instant) : earliest ≤ a := by
  have hrange : minSeconds ≤ a.seconds := a.inRange.1
  have hseconds : earliest.seconds = minSeconds := rfl
  have hnanos : earliest.nanos = 0 := rfl
  rw [le_def, hseconds, hnanos]
  omega

theorem lt_of_le_of_lt {a b c : Instant} (hab : a ≤ b) (hbc : b < c) : a < c := by
  rw [le_def] at hab
  rw [lt_def] at hbc ⊢
  omega

end Instant

/-- A finite map from names to values with their expiries. -/
abbrev ExpiringMap := Finmap fun _ : String => String × Instant

namespace ExpiringMap

variable {m : ExpiringMap} {now : Instant} {name : String}

/-! ## Operations -/

/-- Keeps a value under a name for so many days. -/
def set (m : ExpiringMap) (now : Instant) (name value : String) (days : Int64) : ExpiringMap :=
  m.insert name (value, now.expiry days)

/-- Removes the value under a name. -/
def delete (m : ExpiringMap) (name : String) : ExpiringMap :=
  m.erase name

/-- The entry under a name, if its expiry lies ahead. -/
def live? (m : ExpiringMap) (now : Instant) (name : String) : Option (String × Instant) :=
  (m.lookup name).filter fun entry => decide (now < entry.2)

/-- The value under a name, if its expiry lies ahead. -/
def get? (m : ExpiringMap) (now : Instant) (name : String) : Option String :=
  (m.live? now name).map Prod.fst

/-- The entries whose expiries lie ahead, in order of names. -/
def list (m : ExpiringMap) (now : Instant) : List Preference :=
  m.keys.sort.filterMap fun name =>
    (m.live? now name).map fun entry => ⟨name, entry.1, entry.2⟩

theorem live?_eq_some_iff {entry : String × Instant} :
    m.live? now name = some entry ↔ m.lookup name = some entry ∧ now < entry.2 := by
  rw [live?, Option.filter_eq_some_iff, decide_eq_true_eq]

theorem live?_set (m : ExpiringMap) (start now : Instant) (kept value name : String)
    (days : Int64) :
    live? (m.set start kept value days) now name =
      if kept = name then (some (value, start.expiry days)).filter fun e => decide (now < e.2)
      else m.live? now name := by
  rw [live?, set]
  split
  · next h => rw [h, Finmap.lookup_insert]
  · next h => rw [Finmap.lookup_insert_of_ne m (Ne.symm h), live?]

theorem live?_delete (m : ExpiringMap) (now : Instant) (removed name : String) :
    live? (m.delete removed) now name = if removed = name then none else m.live? now name := by
  rw [live?, delete]
  split
  · next h => rw [h, Finmap.lookup_erase]; rfl
  · next h => rw [Finmap.lookup_erase_ne (Ne.symm h), live?]

theorem delete_of_lookup_eq_none (h : m.lookup name = none) : m.delete name = m := by
  refine Finmap.ext_lookup ?_
  intro other
  by_cases hname : other = name
  · rw [hname, delete, Finmap.lookup_erase, h]
  · rw [delete, Finmap.lookup_erase_ne hname]

/-! ## The list of what can be read -/

theorem mem_list (m : ExpiringMap) (now : Instant) (p : Preference) :
    p ∈ m.list now ↔ m.live? now p.name = some (p.value, p.expires) := by
  rw [list, List.mem_filterMap]
  constructor
  · rintro ⟨name, -, h⟩
    obtain ⟨entry, hentry, rfl⟩ := Option.map_eq_some_iff.1 h
    exact hentry
  · intro h
    refine ⟨p.name, ?_, ?_⟩
    · rw [Finset.mem_sort, Finmap.mem_keys]
      exact Finmap.mem_of_lookup_eq_some (live?_eq_some_iff.1 h).1
    · rw [h]
      rfl

theorem pairwise_list (m : ExpiringMap) (now : Instant) :
    (m.list now).Pairwise fun a b => a.name < b.name := by
  rw [list, List.pairwise_filterMap]
  refine (Finset.sortedLT_sort m.keys).pairwise.imp ?_
  intro a b hlt p hp q hq
  obtain ⟨_, -, rfl⟩ := Option.map_eq_some_iff.1 hp
  obtain ⟨_, -, rfl⟩ := Option.map_eq_some_iff.1 hq
  exact hlt

/-- **Only one list in strictly increasing order of names has the entries that can be read.** -/
theorem eq_list {l : List Preference} (hsorted : l.Pairwise fun a b => a.name < b.name)
    (hmem : ∀ p, p ∈ l ↔ m.live? now p.name = some (p.value, p.expires)) : l = m.list now := by
  have hnodup : ∀ {k : List Preference}, (k.Pairwise fun a b => a.name < b.name) → k.Nodup := by
    intro k hk
    refine hk.imp ?_
    rintro a _ hlt rfl
    exact String.lt_irrefl _ hlt
  have hperm : l.Perm (m.list now) := by
    rw [List.perm_ext_iff_of_nodup (hnodup hsorted) (hnodup (m.pairwise_list now))]
    intro p
    rw [hmem, mem_list]
  refine hperm.eq_of_pairwise ?_ hsorted (m.pairwise_list now)
  intro a b _ _ hab hba
  exact absurd hba (String.lt_asymm hab)

/-! ## Maps that cannot be told apart -/

/-- The same entries can be read. -/
def Agree (now : Instant) (m n : ExpiringMap) : Prop :=
  ∀ name, m.live? now name = n.live? now name

/-- What can be read later is among what can be read now. -/
theorem live?_of_le {start : Instant} (m : ExpiringMap) (h : start ≤ now) (name : String) :
    m.live? now name = (m.live? start name).filter fun entry => decide (now < entry.2) := by
  rw [live?, live?, Option.filter_filter]
  congr 1
  funext entry
  -- an expiry after the later reading is after the earlier one as well
  by_cases hnow : now < entry.2
  · simp [hnow, Instant.lt_of_le_of_lt h hnow]
  · simp [hnow]

namespace Agree

variable {n k : ExpiringMap}

theorem refl (now : Instant) (m : ExpiringMap) : Agree now m m :=
  fun _ => rfl

theorem trans (hmn : Agree now m n) (hnk : Agree now n k) : Agree now m k :=
  fun name => (hmn name).trans (hnk name)

/-- **What has expired stays expired**: maps that agree agree from then on. -/
theorem of_le {start : Instant} (h : Agree start m n) (hle : start ≤ now) : Agree now m n := by
  intro name
  rw [live?_of_le m hle, live?_of_le n hle, h name]

theorem set (h : Agree now m n) (start : Instant) (name value : String) (days : Int64) :
    Agree now (m.set start name value days) (n.set start name value days) := by
  intro other
  rw [live?_set, live?_set, h other]

theorem delete (h : Agree now m n) (name : String) : Agree now (m.delete name) (n.delete name) := by
  intro other
  rw [live?_delete, live?_delete, h other]

theorem get?_eq (h : Agree now m n) (name : String) : m.get? now name = n.get? now name := by
  rw [get?, get?, h name]

theorem list_eq (h : Agree now m n) : m.list now = n.list now := by
  refine eq_list (m.pairwise_list now) ?_
  intro p
  rw [mem_list, h p.name]

end Agree

/-- Maps agree when they list the same. -/
theorem agree_of_list_eq {n : ExpiringMap} (h : m.list now = n.list now) : Agree now m n := by
  intro name
  refine Option.ext ?_
  rintro ⟨value, expires⟩
  have hm := mem_list m now ⟨name, value, expires⟩
  have hn := mem_list n now ⟨name, value, expires⟩
  rw [← hm, ← hn, h]

/-! ## Maps of lists -/

/-- The map of a list of entries, of several under one name the first. -/
def ofEntries (l : List Preference) : ExpiringMap :=
  l.foldr (fun p m => m.insert p.name (p.value, p.expires)) ∅

theorem lookup_ofEntries (l : List Preference) (name : String) :
    Finmap.lookup name (ofEntries l) =
      (l.find? fun p => decide (p.name = name)).map fun p => (p.value, p.expires) := by
  induction l with
  | nil => rfl
  | cons p l ih =>
    show Finmap.lookup name ((ofEntries l).insert p.name (p.value, p.expires)) = _
    by_cases hname : p.name = name
    · rw [List.find?_cons, decide_eq_true hname, hname, Finmap.lookup_insert]
      rfl
    · rw [List.find?_cons, decide_eq_false hname, Finmap.lookup_insert_of_ne _ (Ne.symm hname), ih]

theorem live?_ofEntries (l : List Preference) (now : Instant) (name : String) :
    live? (ofEntries l) now name =
      ((l.find? fun p => decide (p.name = name)).filter fun p => p.isLive now).map
        fun p => (p.value, p.expires) := by
  rw [live?, lookup_ofEntries, Option.filter_map]
  congr 2
  funext p
  show decide (now < p.expires) = p.isLive now
  rw [Bool.eq_iff_iff, decide_eq_true_eq, Preference.isLive_iff]

theorem get?_ofEntries (l : List Preference) (now : Instant) (name : String) :
    get? (ofEntries l) now name =
      ((l.find? fun p => decide (p.name = name)).filter fun p => p.isLive now).map
        Preference.value := by
  rw [get?, live?_ofEntries, Option.map_map]
  rfl

/-- The list of what can be read, from a list of the same entries. -/
theorem eq_list_ofEntries {l sorted : List Preference} (h : NamesDistinct l)
    (hsorted : sorted.Pairwise fun a b => a.name < b.name)
    (hperm : sorted.Perm (l.filter fun p => p.isLive now)) : sorted = (ofEntries l).list now := by
  refine eq_list hsorted ?_
  intro p
  rw [live?_ofEntries, ← h.find?_filter, hperm.mem_iff]
  constructor
  · intro hp
    rw [((h.filter _).find?_eq_some_iff).2 ⟨hp, rfl⟩]
    rfl
  · intro hp
    obtain ⟨q, hq, hpair⟩ := Option.map_eq_some_iff.1 hp
    obtain ⟨hmem, hname⟩ := ((h.filter _).find?_eq_some_iff).1 hq
    obtain ⟨hvalue, hexpires⟩ := Prod.mk.inj hpair
    obtain ⟨name, value, expires⟩ := q
    subst hname hvalue hexpires
    exact hmem

theorem agree_ofEntries {l k : List Preference}
    (h : ∀ name, ((l.find? fun p => decide (p.name = name)).filter fun p => p.isLive now) =
      (k.find? fun p => decide (p.name = name)).filter fun p => p.isLive now) :
    Agree now (ofEntries l) (ofEntries k) := by
  intro name
  rw [live?_ofEntries, live?_ofEntries, h name]

/-- A list in which an entry stands for the others of its name holds what inserting it gives. -/
theorem ofEntries_eq_insert {l k : List Preference} {p : Preference}
    (h : ∀ other, (k.find? fun q => decide (q.name = other)) =
      if p.name = other then some p else l.find? fun q => decide (q.name = other)) :
    ofEntries k = (ofEntries l).insert p.name (p.value, p.expires) := by
  refine Finmap.ext_lookup ?_
  intro other
  rw [lookup_ofEntries, h other]
  split
  · next hname => rw [hname, Finmap.lookup_insert]; rfl
  · next hname => rw [Finmap.lookup_insert_of_ne _ (Ne.symm hname), lookup_ofEntries]

theorem ofEntries_eq_set {l k : List Preference} {value : String} {days : Int64}
    (h : ∀ other, (k.find? fun p => decide (p.name = other)) =
      if name = other then some (.keptFor now name value days)
      else l.find? fun p => decide (p.name = other)) :
    ofEntries k = (ofEntries l).set now name value days :=
  ofEntries_eq_insert (p := .keptFor now name value days) h

/-- A list without the entries under a name holds what removing them gives. -/
theorem ofEntries_filter_name_ne (l : List Preference) (name : String) :
    ofEntries (l.filter fun p => decide (p.name ≠ name)) = (ofEntries l).delete name := by
  refine Finmap.ext_lookup ?_
  intro other
  rw [lookup_ofEntries, find?_filter_name_ne, delete]
  split
  · next hname => rw [hname, Finmap.lookup_erase]; rfl
  · next hname => rw [Finmap.lookup_erase_ne (Ne.symm hname), lookup_ofEntries]

/-- Dropping what has expired makes no difference from now on. -/
theorem agree_ofEntries_filter {l : List Preference} (h : NamesDistinct l) (now : Instant) :
    Agree now (ofEntries (l.filter fun p => p.isLive now)) (ofEntries l) := by
  refine agree_ofEntries ?_
  intro name
  rw [h.find?_filter, Option.filter_filter]
  simp only [Bool.and_self]

end ExpiringMap

end PlanViewer
