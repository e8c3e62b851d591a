import Mathlib.Data.List.Nodup
import PlanViewer.Catalog
import PlanViewer.Store.CookieJar

/-!
# Lists of preferences under distinct names

Every store keeps a list of preferences in which no name stands twice: a catalog in order of names,
a jar in the order of first appearance. Then an entry can be found by its name, and whether it can
be read may be asked before or after it is looked up. This module says what is found under a name
after each of the changes that stores make to their lists.
-/

namespace PlanViewer

/-- Whether no name stands twice. -/
def NamesDistinct (l : List Preference) : Prop :=
  (l.map Preference.name).Nodup

/-! ## Looking up a name -/

namespace NamesDistinct

variable {l : List Preference}

theorem filter (h : NamesDistinct l) (test : Preference → Bool) :
    NamesDistinct (l.filter test) :=
  h.sublist (List.filter_sublist.map Preference.name)

theorem find?_eq_some_iff (h : NamesDistinct l) {p : Preference} {name : String} :
    (l.find? fun q => decide (q.name = name)) = some p ↔ p ∈ l ∧ p.name = name := by
  constructor
  · intro hfind
    have hname := List.find?_some hfind
    exact ⟨List.mem_of_find?_eq_some hfind, of_decide_eq_true hname⟩
  · rintro ⟨hp, rfl⟩
    rcases hfind : l.find? fun q => decide (q.name = p.name) with _ | q
    · have hnone := List.find?_eq_none.1 hfind p hp
      exact absurd (decide_eq_true rfl) hnone
    · have hname := List.find?_some hfind
      have hq : q = p :=
        List.inj_on_of_nodup_map h (List.mem_of_find?_eq_some hfind) hp (of_decide_eq_true hname)
      rw [hfind, hq]

/-- What passes a test is found among what passes it just as among all. -/
theorem find?_filter (h : NamesDistinct l) (test : Preference → Bool) (name : String) :
    ((l.filter test).find? fun q => decide (q.name = name)) =
      (l.find? fun q => decide (q.name = name)).filter test := by
  ext p
  rw [(h.filter test).find?_eq_some_iff, Option.filter_eq_some_iff, h.find?_eq_some_iff,
    List.mem_filter]
  tauto

end NamesDistinct

theorem find?_filter_name_ne (l : List Preference) (removed name : String) :
    ((l.filter fun p => decide (p.name ≠ removed)).find? fun q => decide (q.name = name)) =
      if removed = name then none else l.find? fun q => decide (q.name = name) := by
  rw [List.find?_filter]
  split
  · next h =>
    subst h
    rw [List.find?_eq_none]
    simp
  · next h =>
    congr 1
    funext p
    by_cases hp : p.name = name
    · simp [hp, Ne.symm h]
    · simp [hp]

/-! ## Catalogs -/

namespace Catalog

theorem namesDistinct (c : Catalog) : NamesDistinct c.entries := by
  rw [NamesDistinct, List.Nodup, List.pairwise_map]
  refine c.sorted.imp ?_
  intro a b hlt heq
  rw [heq] at hlt
  exact String.lt_irrefl _ hlt

theorem find?_insertEntry (p : Preference) (l : List Preference) (name : String) :
    ((insertEntry p l).find? fun q => decide (q.name = name)) =
      if p.name = name then some p else l.find? fun q => decide (q.name = name) := by
  induction l with
  | nil => by_cases hp : p.name = name <;> simp [insertEntry, hp]
  | cons q l ih =>
    rw [insertEntry]
    split
    · by_cases hp : p.name = name <;> simp [List.find?_cons, hp]
    · next hlt =>
      split
      · next heq =>
        by_cases hp : p.name = name
        · simp [hp]
        · simp [← heq, hp]
      · next hne =>
        -- the entry goes further down, so what is found here has another name
        by_cases hq : q.name = name
        · have hp : p.name ≠ name := fun hp => hne (hp.trans hq.symm)
          simp [hq, hp]
        · simp [hq, ih]

end Catalog

/-! ## Jars -/

namespace CookieJar

theorem find?_replaceOrAdd (c : Preference) (l : List Preference) (name : String) :
    ((replaceOrAdd l c).find? fun q => decide (q.name = name)) =
      if c.name = name then some c else l.find? fun q => decide (q.name = name) := by
  induction l with
  | nil => by_cases hc : c.name = name <;> simp [replaceOrAdd, hc]
  | cons d l ih =>
    rw [replaceOrAdd]
    split
    · next heq =>
      by_cases hc : c.name = name
      · simp [hc]
      · simp [heq, hc]
    · next hne =>
      by_cases hd : d.name = name
      · have hc : c.name ≠ name := fun hc => hne (hd.trans hc.symm)
        simp [hd, hc]
      · simp [hd, ih]

end CookieJar

end PlanViewer
