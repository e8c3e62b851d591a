import PlanViewer.Proofs.SettingChanges

/-!
# Settings that a session holds

A session holds settings, and changes those of its folder. A change starts from what is loaded from
the folder, and then the session holds the result as a whole. So the setting that was not named
stays in force exactly if the session held the one that was kept in the folder. It need not: a
session can be given settings of its own, and then the first change of one of them silently replaces
the other one by what the folder has to say.

A session that was opened with the settings of its folder stays in step with them. Whatever it does,
the disk only grows: folders are made, and files are written under the name of the preferences
(`Disk.Grows`). No settings file comes about that way, and none is changed, so later loads find what
the session holds or fail (`Settings.Settled`). A settings file that the session writes itself has
the same effect, so after one change every session is in step.
-/

namespace PlanViewer

open Step

/-! ## Disks that grow -/

namespace Disk

variable {d d' later : Disk} {folder : Path} {file name : String} {here : Place}

/-- All places hold what they held, but that folders may have been made where nothing was, and files
written under a name where no folder was. -/
def Grows (name : String) (d d' : Disk) : Prop :=
  ∀ place, d'.node? place = d.node? place ∨
    d.node? place = none ∧ d'.node? place = some .folder ∨
    d.node? place ≠ some .folder ∧ ∃ here bytes, place = here ++ [name] ∧
      d'.node? place = some (.file bytes)

namespace Grows

theorem refl (name : String) (d : Disk) : Grows name d d :=
  fun _ => Or.inl rfl

theorem folder_stays (h : Grows name d d') {place : Place}
    (hplace : d.node? place = some .folder) : d'.node? place = some .folder := by
  rcases h place with hsame | ⟨hnone, -⟩ | ⟨hfree, -⟩
  · rw [hsame, hplace]
  · rw [hplace] at hnone
    cases hnone
  · exact absurd hplace hfree

theorem trans (h : Grows name d d') (h' : Grows name d' later) : Grows name d later := by
  intro place
  rcases h' place with hsame' | ⟨hnone', hfolder'⟩ | ⟨hfree', here, bytes, hplace, hfile'⟩
  · rw [hsame']
    exact h place
  · rcases h place with hsame | ⟨-, hfolder⟩ | ⟨-, here, bytes, -, hfile⟩
    · exact Or.inr (Or.inl ⟨hsame.symm.trans hnone', hfolder'⟩)
    · rw [hfolder] at hnone'
      cases hnone'
    · rw [hfile] at hnone'
      cases hnone'
  · exact Or.inr (Or.inr ⟨fun hfolder => hfree' (h.folder_stays hfolder), here, bytes, hplace,
      hfile'⟩)

theorem file_stays (h : Grows name d d') {place : Place} {bytes : ByteArray}
    (hplace : d.node? place = some (.file bytes)) :
    ∃ bytes', d'.node? place = some (.file bytes') := by
  rcases h place with hsame | ⟨hnone, -⟩ | ⟨-, -, bytes', -, hfile⟩
  · exact ⟨bytes, hsame.trans hplace⟩
  · rw [hplace] at hnone
    cases hnone
  · exact ⟨bytes', hfile⟩

/-- Under other names no files are written. -/
theorem node?_cases (h : Grows name d d') (hne : file ≠ name) (here : Place) :
    d'.node? (here ++ [file]) = d.node? (here ++ [file]) ∨
      d.node? (here ++ [file]) = none ∧ d'.node? (here ++ [file]) = some .folder := by
  rcases h (here ++ [file]) with hsame | hfolder | ⟨-, other, -, hplace, -⟩
  · exact Or.inl hsame
  · exact Or.inr hfolder
  · have hlast := List.append_inj_right' hplace rfl
    exact absurd (List.cons.inj hlast).1 hne

end Grows

theorem MakesFolders.grows {names : Place} (h : d.MakesFolders names d') (name : String) :
    Grows name d d' := by
  intro place
  rcases h place with hsame | ⟨hnone, hfolder, -⟩
  · exact Or.inl hsame
  · exact Or.inr (Or.inl ⟨hnone, hfolder⟩)

theorem Takes.grows_put (h : d.Takes folder name here) (bytes : ByteArray) :
    Grows name d (d.put (here ++ [name]) (.file bytes)) := by
  intro place
  by_cases hplace : place = here ++ [name]
  · subst hplace
    exact Or.inr (Or.inr ⟨h.free, here, bytes, rfl, node?_put_self d (by simp) _⟩)
  · exact Or.inl (node?_put_of_ne d hplace _)

/-- **Saving files under one name lets the disk grow**, whether it goes through or not. -/
theorem grows_save (hup : name ≠ "..") (d : Disk) (folder : Path) (text : String) :
    Grows name d (d.save folder name text).2 := by
  have hprepared := (makesFolders_prepared d folder).grows name
  rcases save_cases hup d folder text with ⟨cause, hsave⟩ | ⟨here, htakes, hsave⟩
  · rw [hsave]
    exact hprepared
  · rw [hsave]
    exact hprepared.trans (htakes.grows_put _)

/-! ## What is read on a disk that has grown -/

/-- The file is read as before, or where nothing was there is now a folder. -/
def ReadsOn (d d' : Disk) (path : Path) : Prop :=
  d'.reading path = d.reading path ∨
    d.reading path = none ∧ d'.reading path = some (.error .isFolder)

theorem readsOn_child
    (h : d'.locateFrom [] (folder.names ++ [file]) = d.locateFrom [] (folder.names ++ [file]) ∨
      (∀ place e, d.locateFrom [] (folder.names ++ [file]) ≠ .entry place e) ∧
        ∀ place e, d'.locateFrom [] (folder.names ++ [file]) = .entry place e → e = .folder) :
    d.ReadsOn d' (folder.child file) := by
  rcases h with hsame | ⟨hnothing, hfolder⟩
  · exact Or.inl (reading_child_congr hsame)
  · have hbefore := reading_child_eq_none hnothing
    by_cases hentry : ∃ place e, d'.locate (folder.child file) = .entry place e
    · obtain ⟨place, e, hlocate⟩ := hentry
      have hfits : (folder.child file).size ≤ Path.sizeLimit := by
        by_contra hlong
        rw [locate, if_pos (Nat.not_le.1 hlong)] at hlocate
        cases hlocate
      obtain rfl : e = .folder := hfolder place e (by rw [← locate_child hfits, hlocate])
      refine Or.inr ⟨hbefore, ?_⟩
      rw [reading, contains, readText, hlocate]
      rfl
    · refine Or.inl ?_
      rw [hbefore]
      exact reading_eq_none fun place e heq => hentry ⟨place, e, heq⟩

/-- To tell what is read, a way that is still open need not be followed again. -/
theorem Grows.readsOn_beyond {known rest : Place} (h : Grows name d d')
    (hnames : folder.names = known ++ rest) (hway : d.Way [] known here)
    (hbeyond : d'.locateFrom here (rest ++ [file]) = d.locateFrom here (rest ++ [file]) ∨
      (∀ place e, d.locateFrom here (rest ++ [file]) ≠ .entry place e) ∧
        ∀ place e, d'.locateFrom here (rest ++ [file]) = .entry place e → e = .folder) :
    d.ReadsOn d' (folder.child file) := by
  have hway' := hway.of_folders fun p => h.folder_stays
  apply readsOn_child
  rwa [hnames, List.append_assoc, hway.locateFrom_append, hway'.locateFrom_append]

theorem locateFrom_of_overlong (hup : file ≠ "..") (hlong : Path.nameLimit < file.utf8ByteSize)
    (rest : Place) : d.locateFrom here (file :: rest) = .overlong := by
  rw [locateFrom, if_neg hup, if_pos hlong]

/-- A folder that is there is found where it was. -/
theorem Grows.readsOn_of_way (h : Grows name d d') (hway : d.Way [] folder.names here)
    (hne : file ≠ name) (hup : file ≠ "..") : d.ReadsOn d' (folder.child file) := by
  refine h.readsOn_beyond (List.append_nil folder.names).symm hway ?_
  rw [List.nil_append]
  rcases h.node?_cases hne here with hsame | ⟨hnone, hfolder⟩
  · refine Or.inl ?_
    unfold locateFrom
    rw [hsame]
    rfl
  · by_cases hlong : Path.nameLimit < file.utf8ByteSize
    · rw [locateFrom_of_overlong hup hlong, locateFrom_of_overlong hup hlong]
      exact Or.inl rfl
    · have hfound : d'.locateFrom here [file] = .entry (here ++ [file]) .folder := by
        rw [locateFrom, if_neg hup, if_neg hlong, hfolder]
        rfl
      rw [locateFrom_of_none ⟨hup, Nat.not_lt.1 hlong⟩ hnone, hfound]
      refine Or.inr ⟨fun place e heq => ?_, fun place e heq => ?_⟩
      · cases heq
      · cases heq
        rfl

/-- Below a missing name there is nothing, and growing puts no file there under another name. -/
theorem Grows.readsOn_of_none {known rest : Place} {first : String} (h : Grows name d d')
    (htree : d.IsTree) (hnames : folder.names = known ++ first :: rest)
    (hway : d.Way [] known here) (hnone : d.node? (here ++ [first]) = none)
    (hdown : ".." ∉ first :: rest) (hne : file ≠ name) (hup : file ≠ "..") :
    d.ReadsOn d' (folder.child file) := by
  have hdown' : ".." ∉ first :: rest ++ [file] := by simpa [hup.symm] using hdown
  have hentry : ∀ {any : Disk} {place e},
      any.locateFrom here (first :: rest ++ [file]) = .entry place e →
        any.node? (here ++ (first :: rest) ++ [file]) = some e := by
    intro any place e hlocate
    rw [List.append_assoc]
    exact node?_of_locateFrom hdown' (by simp) hlocate
  have hfree : d.node? (here ++ [first]) ≠ some .folder := by
    rw [hnone]
    intro hfolder
    cases hfolder
  have hnothing : d.node? (here ++ (first :: rest) ++ [file]) = none := by
    have hbelow : d.node? (here ++ [first] ++ (rest ++ [file])) = none :=
      htree.nothing_below hfree (by simp)
    simpa using hbelow
  refine h.readsOn_beyond hnames hway
    (Or.inr ⟨fun place e hlocate => ?_, fun place e hlocate => ?_⟩)
  · have hfound := hentry hlocate
    rw [hnothing] at hfound
    cases hfound
  · rcases h.node?_cases hne (here ++ (first :: rest)) with hsame | ⟨-, hfolder⟩
    · have hfound := hentry hlocate
      rw [hsame, hnothing] at hfound
      cases hfound
    · exact Option.some.inj ((hentry hlocate).symm.trans hfolder)

/-- **Growing brings no file into sight** under another name, where the path leads down only from
its first missing name on. -/
theorem Grows.readsOn (h : Grows name d d') (htree : d.IsTree) (hstraight : d.Straight folder)
    (hne : file ≠ name) (hup : file ≠ "..") : d.ReadsOn d' (folder.child file) := by
  obtain ⟨names, ending, size⟩ := folder
  cases d.walk [] names with
  | through hway => exact h.readsOn_of_way hway hne hup
  | missing hway hfirst hnone hmissing =>
    rw [Straight, hmissing] at hstraight
    exact h.readsOn_of_none htree rfl hway hnone hstraight hne hup
  | overlong hway hfirst hlong =>
    refine h.readsOn_beyond rfl hway (Or.inl ?_)
    rw [List.cons_append, locateFrom_of_overlong hfirst hlong,
      locateFrom_of_overlong hfirst hlong]
  | barred hway hfirst hfile =>
    -- the file may have been written anew, but it still stands in the way
    obtain ⟨bytes', hfile'⟩ := h.file_stays hfile
    refine h.readsOn_beyond rfl hway (Or.inl ?_)
    rw [List.cons_append, locateFrom_of_file hfirst hfile, locateFrom_of_file hfirst hfile',
      if_neg (by simp), if_neg (by simp)]

end Disk

/-! ## Settings that stay -/

namespace Settings

variable {disk disk' : Disk} {folder : Path} {held kept changed : Settings} {key value : String}

/-- Whatever is loaded from a folder is these settings, and will be while the disk grows. -/
def Settled (disk : Disk) (folder : Path) (held : Settings) : Prop :=
  ∀ disk', disk.Grows PrefsFile.fileName disk' →
    ∀ kept, load disk' folder = .ok kept → kept = held

theorem Settled.eq_of_load (h : Settled disk folder held) (hload : load disk folder = .ok kept) :
    kept = held :=
  h disk (.refl _ disk) kept hload

theorem Settled.grows (h : Settled disk folder held)
    (hgrows : disk.Grows PrefsFile.fileName disk') : Settled disk' folder held :=
  fun later hlater => h later (hgrows.trans hlater)

theorem settled_of_readsOn (hload : load disk folder = .ok held)
    (h : ∀ disk', disk.Grows PrefsFile.fileName disk' →
      disk.ReadsOn disk' (folder.child fileName)) : Settled disk folder held := by
  intro disk' hgrows kept hkept
  rcases h disk' hgrows with hsame | ⟨-, hfolder⟩
  · exact Except.ok.inj (hkept.symm.trans ((TextFile.load_congr hsame).trans hload))
  · cases hkept.symm.trans (TextFile.load_of_reading_error hfolder)

/-- Settings that are loaded stay, where nothing can come into sight. -/
theorem settled_of_straight (htree : disk.IsTree) (hstraight : disk.Straight folder)
    (hload : load disk folder = .ok held) : Settled disk folder held :=
  settled_of_readsOn hload fun _ hgrows =>
    hgrows.readsOn htree hstraight (by decide) (by decide)

/-- **Settings that are saved stay.** -/
theorem settled_of_save (h : (held.save folder).outcome disk = (.ok (), disk')) :
    Settled disk' folder held := by
  obtain ⟨here, hsaved⟩ := Disk.saved_of_save (by decide) (TextFile.outcome_save_eq_ok_iff.1 h)
  exact settled_of_readsOn (load_of_outcome_save h) fun _ hgrows =>
    hgrows.readsOn_of_way hsaved.way (by decide) (by decide)

/-! ## Settings that differ in one -/

/-- Settings that differ at most in the one that is named. -/
def SameBut (key : String) (a b : Settings) : Prop :=
  (key ≠ "expiry-days" → a.expiryDays = b.expiryDays) ∧
    (key ≠ "match-mode" → a.matchMode = b.matchMode)

theorem SameBut.refl (key : String) (s : Settings) : s.SameBut key s :=
  ⟨fun _ => rfl, fun _ => rfl⟩

/-- What a change makes of settings differs from others in one of them exactly if they did. -/
theorem Changed.sameBut_iff (h : kept.Changed key value changed) (s : Settings) :
    changed.SameBut key s ↔ kept.SameBut key s := by
  cases h with
  | expiryDays _ _ _ =>
    exact ⟨fun h => ⟨fun hne => absurd rfl hne, h.2⟩, fun h => ⟨fun hne => absurd rfl hne, h.2⟩⟩
  | matchMode _ =>
    exact ⟨fun h => ⟨h.1, fun hne => absurd rfl hne⟩, fun h => ⟨h.1, fun hne => absurd rfl hne⟩⟩

end Settings

/-! ## Sessions in step with their folder -/

/-- Whether there is a message about something that went through. -/
def Report.HasSuccess (r : Report) : Prop :=
  ∃ m ∈ r.messages, m.level = .success

instance (r : Report) : Decidable r.HasSuccess :=
  inferInstanceAs (Decidable (∃ m ∈ r.messages, m.level = .success))

theorem Store.Changes.grows {s s' : Store} (h : s.Changes s') :
    s.disk.Grows PrefsFile.fileName s'.disk := by
  induction h with
  | nothing s => exact .refl _ s.disk
  | memory held held' disk => exact .refl _ disk
  | cookies disk _ => exact .refl _ disk
  | save root disk text => exact Disk.grows_save (by decide) disk root text
  | later _ _ ih ih' => exact ih.trans ih'

namespace Session

variable {s s' : Session} {key value : String} {report : Report}

/-- The session holds the settings of its folder, and will while the disk grows. -/
def InStep (s : Session) : Prop :=
  Settings.Settled s.store.disk s.folder s.settings

/-- What can become of a session: calls are made, and pages are shown. -/
inductive Reached (s : Session) : Session → Prop
  | start : Reached s s
  | call {mid : Session} (now : Instant) (call : Call) :
      Reached s mid → Reached s ((perform now call).outcome mid).2
  | ready {mid : Session} (banner : String) : Reached s mid → Reached s (mid.onReady banner).2

theorem runSettings_of_load_error {folder : Path} {disk : Disk} {e : PrefsError}
    (hload : Settings.load disk folder = .error e) (request : SettingsRequest) :
    (runSettings folder request).outcome disk = (.error e, disk) := by
  have hread : (Step.ofRead fun disk => Settings.load disk folder).outcome disk =
      (.error e, disk) := by
    rw [← hload]
    rfl
  rw [runSettings, outcome_bind_of_error hread]

theorem InStep.configure (h : s.InStep) (request : SettingsRequest) :
    ((configure request).outcome s).2.InStep := by
  rcases hload : Settings.load s.store.disk s.folder with e | kept
  · rw [outcome_configure (runSettings_of_load_error hload request)]
    exact h
  · obtain rfl : kept = s.settings := h.eq_of_load hload
    rcases hrun : (runSettings s.folder request).outcome s.store.disk with ⟨result, disk'⟩
    rw [outcome_configure hrun]
    rcases runSettings_cases hload hrun with
      ⟨hnone, hdisk⟩ | ⟨hsame, rfl⟩ | ⟨key, value, changed, -, hsave, hchanged⟩
    · rw [hnone]
      rcases hdisk with rfl | rfl
      · exact h
      · exact h.grows ((Disk.makesFolders_prepared _ _).grows _)
    · rw [hsame]
      exact h
    · rw [hchanged]
      exact Settings.settled_of_save hsave

/-- **Every call keeps a session in step.** -/
theorem InStep.perform (h : s.InStep) (now : Instant) (call : Call) :
    ((perform now call).outcome s).2.InStep := by
  by_cases hcall : ∃ request, call = .configure request
  · obtain ⟨request, rfl⟩ := hcall
    have hconfigure := h.configure request
    rcases hrun : (Session.configure request).outcome s with ⟨e | report, s'⟩
    · rw [hrun] at hconfigure
      rwa [Session.perform, outcome_bind_of_error hrun]
    · rw [hrun] at hconfigure
      rwa [Session.perform, outcome_bind hrun]
  · obtain ⟨store', hchanges, heq⟩ :=
      movesWithin_perform now (fun request heq => hcall ⟨request, heq⟩) s
    rw [heq]
    exact h.grows hchanges.grows

/-- **A session in step stays in step.** -/
theorem InStep.reached (h : s.InStep) (hreached : s.Reached s') : s'.InStep := by
  induction hreached with
  | start => exact h
  | call now call _ ih => exact ih.perform now call
  | ready banner _ ih => exact ih

theorem inStep_of_start {store : Store} {folder : Path} (htree : store.disk.IsTree)
    (hstraight : store.disk.Straight folder) (hstart : start store folder = .ok s) : s.InStep := by
  obtain ⟨settings, hload, rfl⟩ := start_ok hstart
  exact Settings.settled_of_straight htree hstraight hload

/-- **What a change that goes through does to a session.** It starts from the settings of the
folder, and the session holds the result, which is saved. -/
theorem configure_change_cases
    (h : (configure (.change key value)).outcome s = (.ok report, s'))
    (hsuccess : report.HasSuccess) :
    ∃ kept, Settings.load s.store.disk s.folder = .ok kept ∧ kept.Changed key value s'.settings ∧
      s'.InStep := by
  rcases hload : Settings.load s.store.disk s.folder with e | kept
  · rw [outcome_configure (runSettings_of_load_error hload _)] at h
    cases h
  · rcases hrun : (runSettings s.folder (.change key value)).outcome s.store.disk with
      ⟨e | answer, disk'⟩
    · rw [outcome_configure hrun] at h
      cases h
    · rw [outcome_configure hrun] at h
      rcases change_cases hload hrun with ⟨changed, text, hset, -, hsave, rfl⟩ | ⟨e, -, rfl, -⟩
      · cases h
        exact ⟨kept, rfl, Settings.set_eq_ok_iff.1 hset, Settings.settled_of_save hsave⟩
      · -- a refused change has an error to report and nothing else
        cases h
        obtain ⟨m, hm, hlevel⟩ := hsuccess
        obtain rfl := List.mem_singleton.1 hm
        cases hlevel

/-- **What a change leaves in force.** When a session reports that a setting has been changed, what
it holds afterwards is what was kept in its folder, changed in that setting. So the other setting is
the one held before exactly if that was the one kept. This is so for every session that was opened
with the settings of its folder, whatever has been done with it, if the path of the folder leads
down only from its first missing name on; and for every session at all that has reported a change
before. -/
theorem change_in_force_exact
    (h : (configure (.change key value)).outcome s = (.ok report, s'))
    (hsuccess : report.HasSuccess) :
    (∃ kept, Settings.load s.store.disk s.folder = .ok kept ∧ kept.Changed key value s'.settings ∧
      (s'.settings.SameBut key s.settings ↔ kept.SameBut key s.settings)) ∧
    (∀ store folder opened, start store folder = .ok opened → store.disk.IsTree →
      store.disk.Straight folder → opened.Reached s → s'.settings.SameBut key s.settings) ∧
    (∀ given other text answer changed,
      (configure (.change other text)).outcome given = (.ok answer, changed) → answer.HasSuccess →
      changed.Reached s → s'.settings.SameBut key s.settings) := by
  obtain ⟨kept, hload, hchanged, -⟩ := configure_change_cases h hsuccess
  have hsame := hchanged.sameBut_iff s.settings
  have hinStep : s.InStep → s'.settings.SameBut key s.settings := by
    intro hs
    obtain rfl : kept = s.settings := hs.eq_of_load hload
    exact hsame.2 (.refl key _)
  refine ⟨⟨kept, hload, hchanged, hsame⟩, ?_, ?_⟩
  · intro store folder opened hstart htree hstraight hreached
    exact hinStep ((inStep_of_start htree hstraight hstart).reached hreached)
  · intro given other text answer changed hearlier hanswer hreached
    obtain ⟨-, -, -, hchangedInStep⟩ := configure_change_cases hearlier hanswer
    exact hinStep (hchangedInStep.reached hreached)

/-- Both settings are changed, one after the other, below folders that are missing at first. -/
theorem change_in_force_exact_both_settings :
    let folder : Path := ⟨["e", "f"], .name, 3⟩
    let opened := withSettings ⟨.file folder, .empty⟩ folder .standard
    let answer : Report :=
      { settings := some ⟨365, .accumulate⟩
        messages := [⟨.success, "match-mode set to accumulate"⟩] }
    let changed := ((configure (.change "match-mode" "accumulate")).outcome opened).2
    let report : Report :=
      { settings := some ⟨30, .accumulate⟩, messages := [⟨.success, "expiry-days set to 30"⟩] }
    let s' := ((configure (.change "expiry-days" "30")).outcome changed).2
    (start ⟨.file folder, .empty⟩ folder = .ok opened ∧ Disk.empty.IsTree ∧
      Disk.empty.Straight folder ∧ opened.Reached changed) ∧
    ((configure (.change "match-mode" "accumulate")).outcome opened = (.ok answer, changed) ∧
      answer.HasSuccess) ∧
    ((configure (.change "expiry-days" "30")).outcome changed = (.ok report, s') ∧
      report.HasSuccess) ∧
    (∃ kept, Settings.load changed.store.disk folder = .ok kept ∧
      kept.SameBut "expiry-days" changed.settings) ∧
    s'.settings.SameBut "expiry-days" changed.settings := by
  intro folder opened answer changed report s'
  have hstart : start ⟨.file folder, .empty⟩ folder = .ok opened := by decide
  have hstraight : Disk.empty.Straight folder := by decide
  have hreached : opened.Reached changed :=
    .call .earliest (.configure (.change "match-mode" "accumulate")) .start
  have hanswer : ((configure (.change "match-mode" "accumulate")).outcome opened).1 =
      .ok answer := by decide +kernel
  have hfirst : (configure (.change "match-mode" "accumulate")).outcome opened =
      (.ok answer, changed) := by rw [← hanswer]
  have hreport : ((configure (.change "expiry-days" "30")).outcome changed).1 = .ok report := by
    decide +kernel
  have hsecond : (configure (.change "expiry-days" "30")).outcome changed = (.ok report, s') := by
    rw [← hreport]
  obtain ⟨⟨kept, hload, -, hiff⟩, hopened, hagain⟩ := change_in_force_exact hsecond (by decide)
  have hsame := hopened _ _ _ hstart Disk.isTree_empty hstraight hreached
  exact ⟨⟨hstart, Disk.isTree_empty, hstraight, hreached⟩, ⟨hfirst, by decide⟩,
    ⟨hsecond, by decide⟩, ⟨kept, hload, hiff.1 hsame⟩,
    hagain _ _ _ _ _ hfirst (by decide) .start⟩

/-- A session that was given settings of its own: changing the days changes the mode too, so that a
node is no longer custom. -/
theorem other_setting_is_reset :
    let given := withSettings ⟨.memory .empty, .empty⟩ ⟨["d"], .name, 1⟩ ⟨7, .accumulate⟩
    let s := ((set .earliest "custom" "foo,zzz" none).outcome given).2
    let s' := ((configure (.change "expiry-days" "30")).outcome s).2
    ((configure (.change "expiry-days" "30")).outcome s).1 =
      .ok { settings := some ⟨30, .overwrite⟩, messages := [⟨.success, "expiry-days set to 30"⟩] } ∧
    s.settings = ⟨7, .accumulate⟩ ∧ s'.settings = ⟨30, .overwrite⟩ ∧
    (isCustomNode .earliest ⟨"foo", "", ""⟩ none).outcome s = (.ok true, s) ∧
    (isCustomNode .earliest ⟨"foo", "", ""⟩ none).outcome s' = (.ok false, s') := by
  decide +kernel

end Session

end PlanViewer
