import PlanViewer.Proofs.KeptValues
import PlanViewer.Proofs.SessionRuns

/-!
# Preferences that a session sets and gets

A preference that is kept without a number of days is kept for the number in force, and it can be
got at once when that number is positive. A number of days that is set has to be positive, so a
positive one stays positive, whatever a session is asked (`Settings.expiryDays_pos_of_set`). But the
settings file is not asked for this: a session that is opened with zero days or less takes every
preference and shows none of them.
-/

namespace PlanViewer

open Step

/-- A number of days can be changed to a positive one only. -/
theorem Settings.expiryDays_pos_of_set {before changed : Settings} {key value : String}
    (h : (set key value).outcome before = (.ok (), changed))
    (hbefore : 0 < before.expiryDays.toInt) : 0 < changed.expiryDays.toInt := by
  unfold set at h
  split at h
  · split at h
    · split at h
      · next hpos =>
        cases h
        exact hpos
      · cases h
    · cases h
  · split at h
    · split at h
      · cases h
        exact hbefore
      · cases h
    · cases h

theorem Store.Changes.namesOnce {s s' : Store} (h : s.Changes s') (hs : s.NamesOnce) :
    s'.NamesOnce := by
  induction h with
  | nothing s => exact hs
  | memory held held' disk => exact nofun
  | cookies disk hdistinct =>
    intro jar hjar
    cases hjar
    exact hdistinct (hs _ rfl)
  | save root disk text => exact nofun
  | later _ _ ih ih' => exact ih' (ih hs)

namespace Session

/-! ## What runs keep -/

/-- What every call keeps, a run keeps. -/
theorem run_induction {P : Session → Prop}
    (hstep : ∀ s now call, P s → P ((perform now call).outcome s).2) {s : Session} (h : P s)
    (calls : List (Instant × Call)) : P (s.run calls).2 := by
  induction calls generalizing s with
  | nil => exact h
  | cons first calls ih =>
    obtain ⟨now, call⟩ := first
    exact ih (hstep s now call h)

theorem namesOnce_perform {s : Session} (h : s.store.NamesOnce) (now : Instant) (call : Call) :
    ((perform now call).outcome s).2.store.NamesOnce := by
  by_cases hcall : ∃ request, call = .configure request
  · obtain ⟨request, rfl⟩ := hcall
    rcases hrun : (runSettings s.folder request).outcome s.store.disk with ⟨e | report, disk'⟩
    · rw [perform, outcome_bind_of_error (outcome_configure hrun)]
      exact h
    · rw [perform, outcome_bind (outcome_configure hrun)]
      exact h
  · obtain ⟨store', hchanges, heq⟩ :=
      movesWithin_perform now (fun request heq => hcall ⟨request, heq⟩) s
    rw [heq]
    exact hchanges.namesOnce h

theorem expiryDays_pos_perform {s : Session}
    (h : s.InForce ∧ 0 < s.settings.expiryDays.toInt) (now : Instant) (call : Call) :
    ((perform now call).outcome s).2.InForce ∧
      0 < ((perform now call).outcome s).2.settings.expiryDays.toInt := by
  obtain ⟨-, -, -, hsettings, hforce⟩ := h.1.perform now call
  refine ⟨hforce, ?_⟩
  rcases hsettings with heq | ⟨key, value, hset⟩
  · rw [heq]
    exact h.2
  · exact Settings.expiryDays_pos_of_set hset h.2

/-! ## Setting and getting -/

theorem key_eq_ok_iff {text : String} {k : PrefKey} :
    key text = .ok k ↔ PrefKey.ofText? text = some k := by
  rw [key]
  rcases PrefKey.ofText? text with _ | found <;> simp

/-- A preference is kept by the store, and for the days in force unless some are given. -/
theorem set_ok {now : Instant} {text value : String} {days : Option Int64} {s s' : Session}
    {report : Report} (h : (set now text value days).outcome s = (.ok report, s')) :
    ∃ k store', PrefKey.ofText? text = some k ∧
      (Store.set now k.name value (days.getD s.settings.expiryDays)).outcome s.store =
        (.ok (), store') ∧
      s' = { s with store := store' } := by
  obtain ⟨k, mid, hkey, hrest⟩ := ok_cases h
  obtain ⟨hresult, rfl⟩ := Prod.mk.inj hkey
  rw [outcome_bind (outcome_getThe s)] at hrest
  obtain ⟨_, mid, honStore, hreport⟩ := ok_cases hrest
  obtain ⟨store', hstore, rfl⟩ := onPart_cases honStore
  cases hreport
  exact ⟨k, store', key_eq_ok_iff.1 hresult, hstore, rfl⟩

theorem outcome_get {now : Instant} {text : String} {k : PrefKey} {s : Session}
    {value : Option String} (hkey : PrefKey.ofText? text = some k)
    (hvalue : s.store.get? now k.name = .ok value) :
    (get now text).outcome s = (.ok (reportOf k value), s) := by
  have hresult : (liftM (key text) : Step Session PrefKey).outcome s = (.ok k, s) := by
    rw [key_eq_ok_iff.2 hkey]
    rfl
  have hlookUp : (lookUp now k).outcome s.store = (.ok (reportOf k value), s.store) := by
    have hread : (Store.value? now k).outcome s.store = (.ok value, s.store) := by
      rw [← hvalue]
      rfl
    rw [lookUp, outcome_bind hread]
    rfl
  rw [get, outcome_bind hresult, onStore, outcome_onPart, hlookUp]

theorem head?_messages_reportOf (k : PrefKey) (value : Option String) :
    (reportOf k value).messages.head? =
      some (value.elim ⟨.warning, k.name ++ " is not set"⟩ (⟨.info, ·⟩)) := by
  cases k <;> cases value <;> rfl

/-- **What is got of a preference that has just been set**, by any name of its key. -/
theorem get_of_set {now : Instant} {text value : String} {s s' : Session} {report : Report}
    (hnames : s.store.NamesOnce) (h : (set now text value none).outcome s = (.ok report, s')) :
    ∃ k, PrefKey.ofText? text = some k ∧ ∀ other, PrefKey.ofText? other = some k →
      ∃ shown, (get now other).outcome s' = (.ok shown, s') ∧
        shown.messages.head? = some
          (if 0 < s.settings.expiryDays.toInt ∧ now < .latest then ⟨.info, value⟩
            else ⟨.warning, k.name ++ " is not set"⟩) := by
  obtain ⟨k, store', hkey, hstore, rfl⟩ := set_ok h
  refine ⟨k, hkey, fun other hother => ?_⟩
  refine ⟨_, outcome_get hother (Store.get?_of_set hnames hstore), ?_⟩
  rw [head?_messages_reportOf, Option.getD_none]
  split <;> rfl

/-- **A preference that is set can be got, if the days in force are positive.** Let a session be
opened over any folder, and let it be asked anything. When it then sets a preference for the days in
force, getting it at that instant by any name of its key answers with the value, unless the days in
force are not positive or time is at its end; then the answer is that it is not set. And days that
were positive when the session was opened are so after every run, where preferences that are kept in
a file are kept in the same folder and the settings of the folder stay what they are when it is
made. -/
theorem set_get_exact {store : Store} {folder : Path} {s : Session} (hnames : store.NamesOnce)
    (hstart : start store folder = .ok s) (calls : List (Instant × Call)) :
    (∀ now text value report s',
      (set now text value none).outcome (s.run calls).2 = (.ok report, s') →
      ∃ k, PrefKey.ofText? text = some k ∧ ∀ other, PrefKey.ofText? other = some k →
        ∃ shown, (get now other).outcome s' = (.ok shown, s') ∧
          shown.messages.head? = some
            (if 0 < (s.run calls).2.settings.expiryDays.toInt ∧ now < .latest then ⟨.info, value⟩
              else ⟨.warning, k.name ++ " is not set"⟩)) ∧
    ((∀ root, store.backend = .file root → root = folder) →
      Settings.load (store.disk.prepared folder) folder = Settings.load store.disk folder →
      0 < s.settings.expiryDays.toInt → 0 < (s.run calls).2.settings.expiryDays.toInt) := by
  obtain ⟨settings, hload, rfl⟩ := start_ok hstart
  constructor
  · intro now text value report s' hset
    have hrun : ((withSettings store folder settings).run calls).2.store.NamesOnce :=
      run_induction (P := fun s => s.store.NamesOnce)
        (fun s now call hs => namesOnce_perform hs now call) hnames calls
    exact get_of_set hrun hset
  · intro hroot hprepared hpos
    have hforce := inForce_withSettings hroot hload hprepared
    have hrun := run_induction (P := fun s => s.InForce ∧ 0 < s.settings.expiryDays.toInt)
      (fun s now call hs => expiryDays_pos_perform hs now call) ⟨hforce, hpos⟩ calls
    exact hrun.2

/-- Days are changed before a preference is set by one name of its key and got by the other. -/
theorem set_get_exact_other_name :
    let folder : Path := ⟨["d"], .name, 1⟩
    let s := withSettings ⟨.file folder, .empty⟩ folder .standard
    let calls : List (Instant × Call) := [(.earliest, .configure (.change "expiry-days" "2"))]
    (Store.NamesOnce ⟨.file folder, .empty⟩ ∧ start ⟨.file folder, .empty⟩ folder = .ok s ∧
      PrefKey.ofText? "showGenCookie" = PrefKey.ofText? "gen" ∧
      Settings.load (Disk.empty.prepared folder) folder = Settings.load .empty folder) ∧
    0 < (s.run calls).2.settings.expiryDays.toInt ∧
    ∃ report s', (set .earliest "gen" "1" none).outcome (s.run calls).2 = (.ok report, s') ∧
      ∃ shown, (get .earliest "showGenCookie").outcome s' = (.ok shown, s') ∧
        shown.messages.head? = some ⟨.info, "1"⟩ := by
  intro folder s calls
  have hnames : Store.NamesOnce ⟨.file folder, .empty⟩ := nofun
  have hstart : start ⟨.file folder, .empty⟩ folder = .ok s := by decide
  have hprepared : Settings.load (Disk.empty.prepared folder) folder =
      Settings.load .empty folder := by decide
  have hroot : ∀ root, Backend.file folder = .file root → root = folder :=
    fun root heq => (Backend.file.inj heq).symm
  obtain ⟨hexact, hpos⟩ := set_get_exact hnames hstart calls
  have hdays := hpos hroot hprepared (by decide)
  obtain ⟨report, s', hset⟩ : ∃ report s',
      (set .earliest "gen" "1" none).outcome (s.run calls).2 = (.ok report, s') := ⟨_, _, rfl⟩
  obtain ⟨k, hkey, hget⟩ := hexact _ _ _ _ _ hset
  obtain rfl : PrefKey.showGenerated = k := Option.some.inj hkey
  obtain ⟨shown, houtcome, hmessage⟩ := hget "showGenCookie" (by decide)
  rw [if_pos ⟨hdays, by decide⟩] at hmessage
  exact ⟨⟨hnames, hstart, by decide, hprepared⟩, hdays, report, s', hset, shown, houtcome, hmessage⟩

/-- A settings file with zero days: a session is opened, and a preference that it has set is not
set. -/
theorem zero_days_hide_preference :
    let folder : Path := ⟨["d"], .name, 1⟩
    let disk := (Disk.empty.put ["d"] .folder).put ["d", "config.json"]
      (.file "\x7b\"expiry_days\":0\x7d".toUTF8)
    let s := withSettings ⟨.file folder, disk⟩ folder ⟨0, .overwrite⟩
    start ⟨.file folder, disk⟩ folder = .ok s ∧
    ∃ report s', (set .earliest "gen" "1" none).outcome s = (.ok report, s') ∧
      ∃ shown, (get .earliest "gen").outcome s' = (.ok shown, s') ∧
        shown.messages.head? = some ⟨.warning, "showGenCookie is not set"⟩ := by
  intro folder disk s
  have hstart : start ⟨.file folder, disk⟩ folder = .ok s := by decide
  have hnames : s.store.NamesOnce := nofun
  obtain ⟨report, s', hset⟩ : ∃ report s',
      (set .earliest "gen" "1" none).outcome s = (.ok report, s') := ⟨_, _, rfl⟩
  obtain ⟨k, hkey, hget⟩ := get_of_set hnames hset
  obtain rfl : PrefKey.showGenerated = k := Option.some.inj hkey
  obtain ⟨shown, houtcome, hmessage⟩ := hget "gen" (by decide)
  rw [if_neg (by decide)] at hmessage
  exact ⟨hstart, report, s', hset, shown, houtcome, hmessage⟩

end Session

end PlanViewer
