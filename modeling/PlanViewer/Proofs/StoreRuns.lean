import PlanViewer.Proofs.CookieHeader
import PlanViewer.Proofs.ExpiringMap
import PlanViewer.Proofs.SavedCatalog
import PlanViewer.Store

/-!
# Stores answer like an expiring map

A store is used through four calls, each with a reading of the clock. Memory, cookie jars and files
keep their preferences in different ways, and a file drops on every change what has expired. Yet as
long as the clock does not run backwards, every store gives to every call the answer of the expiring
map it stands for (`Store.Holds.answers_eq`). So stores that show the same preferences at one time
cannot be told apart from then on.

`Store.Holds` says which entries a store stands for, and that its next change will go through.
-/

namespace PlanViewer

/-! ## Calls and answers -/

/-- What a store can be asked. -/
inductive Call where
  | get (name : String)
  | set (name value : String) (days : Int64)
  | delete (name : String)
  | list
  deriving DecidableEq

/-- What a store answers. -/
inductive Answer where
  /-- The value under a name. -/
  | value (value : Option String)
  /-- A change has been made. -/
  | done
  /-- The preferences that can be read. -/
  | entries (l : List Preference)
  deriving DecidableEq

/-- The answer of an expiring map, and the map after the call. -/
def ExpiringMap.perform (m : ExpiringMap) (now : Instant) : Call → Answer × ExpiringMap
  | .get name => (.value (m.get? now name), m)
  | .set name value days => (.done, m.set now name value days)
  | .delete name => (.done, m.delete name)
  | .list => (.entries (m.list now), m)

/-- The answers of an expiring map to calls at readings of the clock. -/
def ExpiringMap.answers (m : ExpiringMap) : List (Instant × Call) → List Answer
  | [] => []
  | (now, call) :: rest =>
    (m.perform now call).1 :: ExpiringMap.answers (m.perform now call).2 rest

/-! ## Catalogs and jars as maps -/

open ExpiringMap

namespace Catalog

theorem value?_eq_get? (c : Catalog) (now : Instant) (name : String) :
    c.value? now name = (ofEntries c.entries).get? now name := by
  rw [get?_ofEntries]
  rfl

theorem entries_live_eq_list (c : Catalog) (now : Instant) :
    (c.live now).entries = (ofEntries c.entries).list now :=
  eq_list_ofEntries c.namesDistinct (c.live now).sorted (List.Perm.refl _)

theorem ofEntries_insert (c : Catalog) (now : Instant) (name value : String) (days : Int64) :
    ofEntries (c.insert (.keptFor now name value days)).entries =
      (ofEntries c.entries).set now name value days :=
  ofEntries_eq_set fun other => find?_insertEntry _ _ other

end Catalog

namespace CookieJar

variable {jar : CookieJar}

theorem get?_eq_get? (h : NamesDistinct jar.cookies) (now : Instant) (name : String) :
    jar.get? now name = (ofEntries jar.cookies).get? now name := by
  rw [get?_ofEntries, ← h.find?_filter, List.find?_filter, CookieJar.get?]
  congr 2
  funext c
  rw [Bool.decide_and, Bool.decide_eq_true, Bool.decide_eq_true, Bool.and_comm]

theorem list_eq_list (h : NamesDistinct jar.cookies) (now : Instant) :
    jar.list now = (ofEntries jar.cookies).list now := by
  have hperm : (jar.list now).Perm (jar.cookies.filter fun c => c.isLive now) :=
    List.mergeSort_perm _ _
  refine eq_list_ofEntries h ?_ hperm
  have hsorted : (jar.list now).Pairwise fun a b => decide (a.name ≤ b.name) = true := by
    refine List.pairwise_mergeSort ?_ ?_ _
    · intro a b c hab hbc
      exact decide_eq_true (String.le_trans (of_decide_eq_true hab) (of_decide_eq_true hbc))
    · intro a b
      rcases String.le_total a.name b.name with hle | hle
      · rw [decide_eq_true hle, Bool.true_or]
      · rw [decide_eq_true hle, Bool.or_true]
  -- sorting alone gives an order with repetitions; that names are held once makes it strict
  have hdistinct : (jar.list now).Pairwise fun a b => a.name ≠ b.name := by
    rw [← List.pairwise_map]
    exact (hperm.map Preference.name).nodup_iff.2 (h.filter _)
  refine (hsorted.and hdistinct).imp ?_
  rintro a b ⟨hle, hne⟩
  exact lt_of_le_of_ne (of_decide_eq_true hle) hne

theorem ofEntries_set (jar : CookieJar) (now : Instant) (name value : String) (days : Int64) :
    ofEntries (jar.set now name value days).cookies =
      (ofEntries jar.cookies).set now name value days :=
  ofEntries_eq_set fun other => find?_replaceOrAdd _ _ other

end CookieJar

namespace Store

/-- Puts a call to a store. -/
def perform (now : Instant) : Call → Step Store Answer
  | .get name => Step.ofRead fun s => (s.get? now name).map Answer.value
  | .set name value days => do
    set now name value days
    return .done
  | .delete name => do
    delete now name
    return .done
  | .list => Step.ofRead fun s => (s.list now).map Answer.entries

/-- The answers of a store to calls at readings of the clock. -/
def answers (s : Store) : List (Instant × Call) → List (Except PrefsError Answer)
  | [] => []
  | (now, call) :: rest =>
    ((perform now call).outcome s).1 :: answers ((perform now call).outcome s).2 rest

/-! ## What a store stands for -/

/-- The store stands for these entries, of which no two have one name, and takes changes. -/
inductive Holds : Store → List Preference → Prop
  | memory (m : Memory) (disk : Disk) : Holds ⟨.memory m, disk⟩ m.held.entries
  | cookies {jar : CookieJar} (disk : Disk) :
      NamesDistinct jar.cookies → Holds ⟨.cookies jar, disk⟩ jar.cookies
  | file {folder : Path} {disk : Disk} {c : Catalog} :
      PrefsFile.Keeps disk folder c → Holds ⟨.file folder, disk⟩ c.entries

variable {s : Store} {l : List Preference} {now : Instant}

/-! ## Readings -/

theorem Holds.get?_eq (h : Holds s l) (now : Instant) (name : String) :
    s.get? now name = .ok ((ofEntries l).get? now name) := by
  cases h with
  | memory m disk => exact congrArg Except.ok (m.held.value?_eq_get? now name)
  | cookies disk hdistinct => exact congrArg Except.ok (CookieJar.get?_eq_get? hdistinct now name)
  | file hkeeps =>
    show PrefsFile.get? _ _ now name = _
    rw [PrefsFile.get?, hkeeps.load_eq]
    exact congrArg Except.ok (Catalog.value?_eq_get? _ now name)

theorem Holds.list_eq (h : Holds s l) (now : Instant) :
    s.list now = .ok ((ofEntries l).list now) := by
  cases h with
  | memory m disk => exact congrArg Except.ok (m.held.entries_live_eq_list now)
  | cookies disk hdistinct => exact congrArg Except.ok (CookieJar.list_eq_list hdistinct now)
  | file hkeeps =>
    show PrefsFile.list _ _ now = _
    rw [PrefsFile.list, hkeeps.load_eq]
    exact congrArg Except.ok (Catalog.entries_live_eq_list _ now)

/-! ## Changes -/

theorem outcome_onDisk {α : Type} (step : Step Disk α) (s : Store) :
    (onDisk step).outcome s =
      ((step.outcome s.disk).1, { s with disk := (step.outcome s.disk).2 }) :=
  rfl

/-- After a value has been kept, the store stands for what keeping it gives, up to what has
expired. -/
theorem Holds.set (h : Holds s l) (now : Instant) (name value : String) (days : Int64) :
    ∃ s' l', (Store.set now name value days).outcome s = (.ok (), s') ∧ Holds s' l' ∧
      Agree now (ofEntries l') ((ofEntries l).set now name value days) := by
  cases h with
  | memory m disk =>
    refine ⟨_, _, rfl, .memory (m.set now name value days) disk, ?_⟩
    rw [Memory.set, Catalog.ofEntries_insert]
    exact .refl now _
  | @cookies jar disk hdistinct =>
    refine ⟨_, _, rfl, .cookies disk (CookieJar.namesDistinct_replaceOrAdd hdistinct _), ?_⟩
    rw [← jar.ofEntries_set]
    exact .refl now _
  | @file folder disk c hkeeps =>
    obtain ⟨disk', houtcome, hkeeps'⟩ := PrefsFile.outcome_set hkeeps now name value days
    refine ⟨⟨.file folder, disk'⟩, _, ?_, .file hkeeps', ?_⟩
    · show (onDisk (PrefsFile.set folder now name value days)).outcome ⟨.file folder, disk⟩ = _
      rw [outcome_onDisk, houtcome]
    · -- what the file drops on the way has expired, so it makes no difference from now on
      rw [Catalog.ofEntries_insert]
      exact (agree_ofEntries_filter c.namesDistinct now).set now name value days

/-- After a value has been removed, the store stands for what removing it gives, up to what has
expired. -/
theorem Holds.delete (h : Holds s l) (now : Instant) (name : String) :
    ∃ s' l', (Store.delete now name).outcome s = (.ok (), s') ∧ Holds s' l' ∧
      Agree now (ofEntries l') ((ofEntries l).delete name) := by
  cases h with
  | memory m disk =>
    refine ⟨_, _, rfl, .memory (m.delete name) disk, ?_⟩
    rw [← ofEntries_filter_name_ne]
    exact .refl now _
  | @cookies jar disk hdistinct =>
    refine ⟨_, _, rfl, .cookies disk (hdistinct.filter _), ?_⟩
    rw [← ofEntries_filter_name_ne]
    exact .refl now _
  | @file folder disk c hkeeps =>
    obtain ⟨disk', houtcome, hkeeps'⟩ := PrefsFile.outcome_delete hkeeps now name
    refine ⟨⟨.file folder, disk'⟩, _, ?_, .file hkeeps', ?_⟩
    · show (onDisk (PrefsFile.delete folder now name)).outcome ⟨.file folder, disk⟩ = _
      rw [outcome_onDisk, houtcome]
    · split
      · rw [← ofEntries_filter_name_ne]
        exact agree_ofEntries_filter (c.erase name).namesDistinct now
      · next hnone =>
        -- nothing is written, and what has expired stays
        have habsent : c.get? name = none := Option.not_isSome_iff_eq_none.1 hnone
        rw [delete_of_lookup_eq_none]
        · exact .refl now _
        · rw [lookup_ofEntries]
          exact congrArg (Option.map _) habsent

/-! ## Runs -/

/-- **One call.** A store answers as the expiring map that agrees with its entries, and agrees with
it afterwards. -/
theorem Holds.perform {m : ExpiringMap} (h : Holds s l) (hagree : Agree now (ofEntries l) m)
    (call : Call) :
    ∃ s' l', (Store.perform now call).outcome s = (.ok (m.perform now call).1, s') ∧
      Holds s' l' ∧ Agree now (ofEntries l') (m.perform now call).2 := by
  cases call with
  | get name =>
    refine ⟨s, l, ?_, h, hagree⟩
    show ((s.get? now name).map Answer.value, s) = _
    rw [h.get?_eq, hagree.get?_eq]
    rfl
  | set name value days =>
    obtain ⟨s', l', houtcome, hs', hset⟩ := h.set now name value days
    refine ⟨s', l', ?_, hs', hset.trans (hagree.set now name value days)⟩
    exact Step.outcome_bind houtcome _
  | delete name =>
    obtain ⟨s', l', houtcome, hs', hdelete⟩ := h.delete now name
    refine ⟨s', l', ?_, hs', hdelete.trans (hagree.delete name)⟩
    exact Step.outcome_bind houtcome _
  | list =>
    refine ⟨s, l, ?_, h, hagree⟩
    show ((s.list now).map Answer.entries, s) = _
    rw [h.list_eq, hagree.list_eq]
    rfl

/-- **Whole runs.** While the clock does not run backwards, a store gives the answers of every
expiring map that agrees with its entries at the start. -/
theorem Holds.answers_eq {m : ExpiringMap} {start : Instant} (h : Holds s l)
    (hagree : Agree start (ofEntries l) m) {calls : List (Instant × Call)}
    (hclock : (start :: calls.map Prod.fst).Pairwise (· ≤ ·)) :
    s.answers calls = (m.answers calls).map Except.ok := by
  -- agreement at the reading of one call carries over to the reading of the next
  induction calls generalizing s l m start with
  | nil => rfl
  | cons call calls ih =>
    obtain ⟨now, call⟩ := call
    rw [List.map_cons, List.pairwise_cons] at hclock
    have hnow : start ≤ now := hclock.1 now List.mem_cons_self
    obtain ⟨s', l', houtcome, hs', hagree'⟩ := h.perform (hagree.of_le hnow) call
    rw [answers, houtcome, ExpiringMap.answers, List.map_cons, ih hs' hagree' hclock.2]

/-- A store that keeps no name twice and takes changes. -/
def Sound (s : Store) : Prop :=
  ∃ l, Holds s l

/-- Sound stores that show the same preferences at one time answer alike from then on. -/
theorem Sound.answers_eq {s' : Store} {start : Instant} (h : s.Sound) (h' : s'.Sound)
    (hlist : s.list start = s'.list start) {calls : List (Instant × Call)}
    (hclock : (start :: calls.map Prod.fst).Pairwise (· ≤ ·)) :
    s.answers calls = s'.answers calls := by
  obtain ⟨l, hl⟩ := h
  obtain ⟨l', hl'⟩ := h'
  rw [hl.list_eq, hl'.list_eq, Except.ok.injEq] at hlist
  rw [hl.answers_eq (agree_of_list_eq hlist) hclock, hl'.answers_eq (.refl start _) hclock]

/-- A run from the entries that a store stands for. -/
theorem Holds.answers_eq_ofEntries (h : Holds s l) {calls : List (Instant × Call)}
    (hclock : (calls.map Prod.fst).Pairwise (· ≤ ·)) :
    s.answers calls = ((ofEntries l).answers calls).map Except.ok :=
  h.answers_eq (.refl .earliest _)
    (List.pairwise_cons.2 ⟨fun now _ => now.earliest_le, hclock⟩)

/-- **Every store is an expiring map.** In any run of calls under a clock that does not run
backwards, memory from the start, a jar from any header and a file that is missing or can be loaded,
in a folder that can be written to, give exactly the answers of the expiring map of their entries;
what comes from a header expires at the end of time. And any two stores that show the same
preferences at one time answer all later calls alike, whatever expired entries they still keep. -/
theorem answers_exact (calls : List (Instant × Call))
    (hclock : (calls.map Prod.fst).Pairwise (· ≤ ·)) :
    (∀ disk, answers ⟨.memory .empty, disk⟩ calls =
      (ExpiringMap.answers ∅ calls).map Except.ok) ∧
    (∀ header disk, answers ⟨.cookies (.parse header), disk⟩ calls =
      (ExpiringMap.answers (ofEntries ((CookieJar.parse header).cookies.map
        fun c => { c with expires := .latest })) calls).map Except.ok) ∧
    (∀ folder disk, disk.Writable folder PrefsFile.fileName →
      disk.contains (folder.child PrefsFile.fileName) = false →
      answers ⟨.file folder, disk⟩ calls = (ExpiringMap.answers ∅ calls).map Except.ok) ∧
    (∀ folder disk c, disk.Writable folder PrefsFile.fileName →
      PrefsFile.load disk folder = .ok c →
      answers ⟨.file folder, disk⟩ calls =
        (ExpiringMap.answers (ofEntries c.entries) calls).map Except.ok) ∧
    ∀ s s' start, Sound s → Sound s' → s.list start = s'.list start →
      (∀ call ∈ calls, start ≤ call.1) → s.answers calls = s'.answers calls := by
  refine ⟨?_, ?_, ?_, ?_, ?_⟩
  · intro disk
    exact (Holds.memory .empty disk).answers_eq_ofEntries hclock
  · intro header disk
    have hjar := Holds.cookies disk (CookieJar.namesDistinct_parse header)
    rw [hjar.answers_eq_ofEntries hclock, CookieJar.map_withoutExpiry_parse]
  · intro folder disk hwritable hmissing
    have hload : PrefsFile.load disk folder = .ok .empty :=
      TextFile.load_of_not_contains (Bool.not_eq_true _ ▸ hmissing)
    exact (Holds.file ⟨hload, hwritable⟩).answers_eq_ofEntries hclock
  · intro folder disk c hwritable hload
    exact (Holds.file ⟨hload, hwritable⟩).answers_eq_ofEntries hclock
  · intro s s' start hs hs' hlist hstart
    refine hs.answers_eq hs' hlist (List.pairwise_cons.2 ⟨?_, hclock⟩)
    intro now hnow
    obtain ⟨call, hcall, rfl⟩ := List.mem_map.1 hnow
    exact hstart call hcall

/-- A file in a folder that is not there yet. The second change finds the first value expired, and
what is kept at the end of time has expired at once. -/
theorem answers_exact_missing_folder :
    ([Instant.earliest, .earliest, .latest, .latest].Pairwise (· ≤ ·) ∧
      Disk.empty.Writable ⟨["prefs"], .name, 6⟩ PrefsFile.fileName ∧
      Disk.empty.contains (Path.child ⟨["prefs"], .name, 6⟩ PrefsFile.fileName) = false) ∧
    answers ⟨.file ⟨["prefs"], .name, 6⟩, .empty⟩
        [(.earliest, .set "theme" "dark" 1), (.earliest, .get "theme"),
          (.latest, .set "theme" "light" 1), (.latest, .list)] =
      [.ok .done, .ok (.value (some "dark")), .ok .done, .ok (.entries [])] := by
  have hclock : [Instant.earliest, .earliest, .latest, .latest].Pairwise (· ≤ ·) := by decide
  have hsave : (Disk.empty.save ⟨["prefs"], .name, 6⟩ PrefsFile.fileName "").1 = .ok () := by
    decide
  have hwritable := Disk.writable_of_save (by decide) hsave
  have hmissing : Disk.empty.contains (Path.child ⟨["prefs"], .name, 6⟩ PrefsFile.fileName) =
      false := by
    decide
  have hanswers : ExpiringMap.answers ∅
      [(.earliest, .set "theme" "dark" 1), (.earliest, .get "theme"),
        (.latest, .set "theme" "light" 1), (.latest, .list)] =
      [.done, .value (some "dark"), .done, .entries []] := by
    decide +kernel
  refine ⟨⟨hclock, hwritable, hmissing⟩, ?_⟩
  obtain ⟨-, -, hfile, -⟩ := answers_exact
    [(.earliest, .set "theme" "dark" 1), (.earliest, .get "theme"),
      (.latest, .set "theme" "light" 1), (.latest, .list)] hclock
  rw [hfile _ _ hwritable hmissing, hanswers]
  rfl

end Store

end PlanViewer
