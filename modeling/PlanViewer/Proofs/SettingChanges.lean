import PlanViewer.Proofs.SettingValues

/-!
# One change of a setting

A change reads the settings of a folder, changes the one that is named, and saves both in the
folder. Where it is refused it says so and writes nothing. Where it goes through, the settings that
are loaded from then on are the changed ones, and the value is shown as it was reported.

Nothing else in the folder is written to. But the folder is made if it is not there, with what is
missing on the way to it; and a path may lead through the place of another file of that folder and
up again. Then a folder comes to stand there, if nothing did (`Disk.Saved.neighbour`). Every file
stays what it is, and where the path leads down only from its first missing name on, the preferences
of the folder are read as before.
-/

namespace PlanViewer

open Step

/-! ## What a save changes on the disk -/

/-- A file has been saved: the path leads to its folder, and elsewhere nothing has changed but that
some places which held nothing now hold a folder on the way. -/
structure Disk.Saved (d : Disk) (folder : Path) (name : String) (here : Place) (d' : Disk) :
    Prop where
  way : d'.Way [] folder.names here
  elsewhere : ∀ place, place ≠ here ++ [name] → d'.node? place = d.node? place ∨
    d.node? place = none ∧ d'.node? place = some .folder ∧
      ∃ front, front <+: folder.names ∧ d'.Way [] front place

theorem Disk.saved_of_save {d d' : Disk} {folder : Path} {name text : String} (hup : name ≠ "..")
    (h : d.save folder name text = (.ok (), d')) : ∃ here, d.Saved folder name here d' := by
  rcases save_cases hup d folder text with ⟨cause, hsave⟩ | ⟨here, htakes, hsave⟩
  · rw [hsave] at h
    cases h
  · rw [hsave] at h
    cases h
    have hway := (htakes.put text.toUTF8).way
    refine ⟨here, hway, fun place hne => ?_⟩
    rw [node?_put_of_ne _ hne]
    rcases makesFolders_prepared d folder place with hsame | ⟨hnone, hfolder, front, hfront, hmade⟩
    · exact Or.inl hsame
    · -- no folder stood where the file goes, so the way to each of them is still open
      refine Or.inr ⟨hnone, hfolder, front, hfront, hmade.of_folders fun p hp => ?_⟩
      have hother : p ≠ here ++ [name] := by
        rintro rfl
        exact htakes.free hp
      rw [node?_put_of_ne _ hother, hp]

/-- A file beside the one that has been saved is as it was, unless the path leads through its place
and up again. -/
theorem Disk.Saved.neighbour {d d' : Disk} {folder : Path} {name file : String} {here : Place}
    (h : d.Saved folder name here d') (hne : file ≠ name) :
    d'.node? (here ++ [file]) = d.node? (here ++ [file]) ∨
      d.node? (here ++ [file]) = none ∧ d'.node? (here ++ [file]) = some .folder ∧
        ∃ front rest, folder.names = front ++ rest ∧ ".." ∈ rest ∧
          d'.Way [] front (here ++ [file]) := by
  have hother : here ++ [file] ≠ here ++ [name] := by simpa using hne
  rcases h.elsewhere _ hother with hsame | ⟨hnone, hfolder, front, ⟨rest, hnames⟩, hfront⟩
  · exact Or.inl hsame
  · refine Or.inr ⟨hnone, hfolder, front, rest, hnames.symm, ?_, hfront⟩
    have hway := h.way
    rw [← hnames] at hway
    obtain ⟨mid, hmid, hrest⟩ := hway.split
    obtain rfl := hfront.unique hmid
    -- leading down only, the rest of the path would end below this place
    by_contra hdown
    have hlength := congrArg List.length (hrest.eq_append hdown)
    simp only [List.length_append, List.length_cons, List.length_nil] at hlength
    omega

namespace Settings

variable {s changed : Settings} {key value : String}

/-- A setting that has been changed is shown. -/
theorem Changed.exists_get? (h : s.Changed key value changed) :
    ∃ text, changed.get? key = some text := by
  cases h with
  | expiryDays _ _ _ => exact ⟨_, rfl⟩
  | matchMode _ => exact ⟨_, rfl⟩

end Settings

/-! ## What a change can come to -/

namespace Session

variable {folder : Path} {disk disk' : Disk} {before : Settings} {key value : String}
  {report : Report}

/-- What is reported of a setting that has been changed. -/
def changedReport (changed : Settings) (key text : String) : Report :=
  { Report.empty with settings := some changed }.say .success (key ++ " set to " ++ text)

/-- A change that is taken comes to what saving the changed settings comes to. -/
theorem outcome_change {changed : Settings} {text : String}
    (hload : Settings.load disk folder = .ok before)
    (hset : (Settings.set key value).outcome before = (.ok (), changed))
    (hget : changed.get? key = some text)
    (hsave : (changed.save folder).outcome disk = (.ok (), disk')) :
    (runSettings folder (.change key value)).outcome disk =
      (.ok (changedReport changed key text), disk') := by
  rw [runSettings, outcome_bind (outcome_ofRead (Settings.load · folder) hload)]
  dsimp only
  rw [hset]
  dsimp only
  rw [outcome_bind hsave, hget]
  rfl

/-- **What a change that answers has done**: changed the settings, saved them and reported them, or
reported why it was refused. -/
theorem change_cases (hload : Settings.load disk folder = .ok before)
    (h : (runSettings folder (.change key value)).outcome disk = (.ok report, disk')) :
    (∃ changed text, (Settings.set key value).outcome before = (.ok (), changed) ∧
        changed.get? key = some text ∧
        (changed.save folder).outcome disk = (.ok (), disk') ∧
        report = changedReport changed key text) ∨
      ∃ e, (Settings.set key value).outcome before = (.error e, before) ∧
        report = Report.empty.say .error e.message ∧ disk' = disk := by
  rcases hset : (Settings.set key value).outcome before with ⟨e | _, changed⟩
  · rw [runSettings_of_refused hload hset] at h
    cases h
    obtain rfl := Settings.failsWithin_set key value before e changed hset
    exact Or.inr ⟨e, rfl, rfl, rfl⟩
  · obtain ⟨text, hget⟩ := (Settings.set_eq_ok_iff.1 hset).exists_get?
    rcases hsave : (changed.save folder).outcome disk with ⟨cause | _, saved⟩
    · rw [runSettings, outcome_bind (outcome_ofRead (Settings.load · folder) hload)] at h
      dsimp only at h
      rw [hset] at h
      dsimp only at h
      rw [outcome_bind_of_error hsave] at h
      cases h
    · rw [outcome_change hload hset hget hsave] at h
      cases h
      exact Or.inl ⟨changed, text, rfl, hget, hsave, rfl⟩

/-- A change answers exactly if it is refused or the settings can be saved. -/
theorem change_answers_iff (hload : Settings.load disk folder = .ok before) :
    (∃ report disk', (runSettings folder (.change key value)).outcome disk = (.ok report, disk')) ↔
      ∀ changed, (Settings.set key value).outcome before = (.ok (), changed) →
        disk.Writable folder Settings.fileName := by
  constructor
  · rintro ⟨report, disk', h⟩ changed hset
    rcases change_cases hload h with ⟨saved, text, -, -, hsave, -⟩ | ⟨e, herror, -⟩
    · exact TextFile.writable_of_outcome_save (by decide) hsave
    · rw [hset] at herror
      cases herror
  · intro h
    rcases hset : (Settings.set key value).outcome before with ⟨e | _, changed⟩
    · exact ⟨_, _, runSettings_of_refused hload hset⟩
    · obtain ⟨text, hget⟩ := (Settings.set_eq_ok_iff.1 hset).exists_get?
      obtain ⟨saved, hsave, -⟩ :=
        TextFile.outcome_save (by decide) (h changed hset) changed.toJson
      exact ⟨_, _, outcome_change hload hset hget hsave⟩

theorem outcome_showKey {s : Settings} {text : String} (hload : Settings.load disk folder = .ok s)
    (hget : s.get? key = some text) :
    (runSettings folder (.showKey key)).outcome disk =
      (.ok (Report.empty.say .info text), disk) := by
  rw [runSettings, outcome_bind (outcome_ofRead (Settings.load · folder) hload)]
  dsimp only
  rw [hget]
  rfl

/-! ## Preferences beside the settings -/

/-- Settings are saved in a file of their own. -/
theorem reading_preferences_of_change (htree : disk.IsTree) (hstraight : disk.Straight folder)
    (hload : Settings.load disk folder = .ok before)
    (h : (runSettings folder (.change key value)).outcome disk = (.ok report, disk')) :
    disk'.reading (folder.child PrefsFile.fileName) =
      disk.reading (folder.child PrefsFile.fileName) := by
  rcases change_cases hload h with ⟨changed, text, -, -, hsave, -⟩ | ⟨e, -, -, rfl⟩
  · have hdisk := congrArg Prod.snd (TextFile.outcome_save_eq_ok_iff.1 hsave)
    have hother : (disk.save folder Settings.fileName changed.toJson).2.reading
        (folder.child PrefsFile.fileName) =
          (disk.prepared folder).reading (folder.child PrefsFile.fileName) :=
      Disk.reading_save (by decide) (by decide) disk folder changed.toJson
    rwa [hdisk, Disk.reading_prepared htree hstraight (by decide)] at hother
  · rfl

/-- **What becomes of a change of a setting.** Let settings be loaded from a folder, whatever its
settings file holds. A change answers exactly if it is refused or the settings file can be saved.
Then either it is taken: the settings named in the report, which are the ones before but for the
setting that was changed to what the value says, are those that are loaded afterwards, and the text
reported is the one that the setting is shown with; nothing has been written but the settings file,
with folders on the way to it, one of which can only then take the place of the preferences if
nothing stood there and the path leads through it and up again. Or it is refused, for its value or
its name, and nothing has changed. In both cases the preferences of the folder are read as before,
if its path leads down only from its first missing name on. -/
theorem change_setting_exact (hload : Settings.load disk folder = .ok before)
    (key value : String) :
    ((∃ report disk',
        (runSettings folder (.change key value)).outcome disk = (.ok report, disk')) ↔
      ∀ changed, (Settings.set key value).outcome before = (.ok (), changed) →
        disk.Writable folder "config.json") ∧
    ∀ report disk',
      (runSettings folder (.change key value)).outcome disk = (.ok report, disk') →
      ((∃ changed text here, before.Changed key value changed ∧
          report = { settings := some changed,
                     messages := [⟨.success, key ++ " set to " ++ text⟩] } ∧
          Settings.load disk' folder = .ok changed ∧
          (runSettings folder (.showKey key)).outcome disk' =
            (.ok { messages := [⟨.info, text⟩] }, disk') ∧
          disk.Saved folder "config.json" here disk' ∧
          (disk'.node? (here ++ ["prefs.json"]) = disk.node? (here ++ ["prefs.json"]) ∨
            disk.node? (here ++ ["prefs.json"]) = none ∧
              disk'.node? (here ++ ["prefs.json"]) = some .folder ∧
              ∃ front rest, folder.names = front ++ rest ∧ ".." ∈ rest ∧
                disk'.Way [] front (here ++ ["prefs.json"]))) ∨
        (∃ e, (e = .invalidValue key value ∨ e = .unknownSetting key) ∧
          (Settings.set key value).outcome before = (.error e, before) ∧
          report = { messages := [⟨.error, e.message⟩] } ∧ disk' = disk)) ∧
      (disk.IsTree → disk.Straight folder →
        disk'.reading (folder.child "prefs.json") = disk.reading (folder.child "prefs.json")) := by
  refine ⟨change_answers_iff hload, fun report disk' h => ⟨?_, fun htree hstraight => ?_⟩⟩
  · rcases change_cases hload h with
      ⟨changed, text, hset, hget, hsave, rfl⟩ | ⟨e, hset, rfl, rfl⟩
    · have hloaded := Settings.load_of_outcome_save hsave
      obtain ⟨here, hsaved⟩ :=
        Disk.saved_of_save (by decide) (TextFile.outcome_save_eq_ok_iff.1 hsave)
      exact Or.inl ⟨changed, text, here, Settings.set_eq_ok_iff.1 hset, rfl, hloaded,
        outcome_showKey hloaded hget, hsaved, hsaved.neighbour (by decide)⟩
    · refine Or.inr ⟨e, ?_, hset, rfl, rfl⟩
      rcases (Settings.set_error_cases hset).2 with ⟨-, rfl⟩ | ⟨-, rfl⟩
      · exact Or.inr rfl
      · exact Or.inl rfl
  · exact reading_preferences_of_change htree hstraight hload h

/-- A settings file that says one thing only, beside members that are none of its business. -/
theorem change_setting_exact_partial_file :
    let folder : Path := ⟨["d"], .name, 1⟩
    let disk := (Disk.empty.put ["d"] .folder).put ["d", "config.json"]
      (.file "\x7b\"x\":[1],\"match_mode\":\"accumulate\"\x7d".toUTF8)
    (Settings.load disk folder = .ok ⟨365, .accumulate⟩ ∧ disk.IsTree ∧ disk.Straight folder ∧
      disk.Writable folder "config.json") ∧
    ∃ report disk', (runSettings folder (.change "expiry-days" " +007 ")).outcome disk =
        (.ok report, disk') ∧
      Settings.load disk' folder = .ok ⟨7, .accumulate⟩ ∧
      disk'.reading (folder.child "prefs.json") = disk.reading (folder.child "prefs.json") := by
  intro folder disk
  have hload : Settings.load disk folder = .ok ⟨365, .accumulate⟩ := by decide
  have hfolder : (Disk.empty.put ([] ++ ["d"]) .folder).IsTree :=
    Disk.isTree_empty.put rfl (by decide) _
  have hfile : ∀ e, ((Disk.empty.put ["d"] .folder).put (["d"] ++ ["config.json"]) e).IsTree :=
    hfolder.put rfl (by decide)
  have htree : disk.IsTree := hfile _
  have hstraight : disk.Straight folder := by decide
  have hsave : (disk.save folder "config.json" "").1 = .ok () := by decide
  have hwritable : disk.Writable folder "config.json" := Disk.writable_of_save (by decide) hsave
  have hset : (Settings.set "expiry-days" " +007 ").outcome ⟨365, .accumulate⟩ =
      (.ok (), ⟨7, .accumulate⟩) := by decide
  obtain ⟨hanswers, hexact⟩ := change_setting_exact hload "expiry-days" " +007 "
  obtain ⟨report, disk', hrun⟩ := hanswers.2 fun _ _ => hwritable
  obtain ⟨hresult, hpreferences⟩ := hexact report disk' hrun
  refine ⟨⟨hload, htree, hstraight, hwritable⟩, report, disk', hrun, ?_,
    hpreferences htree hstraight⟩
  rcases hresult with ⟨changed, text, here, hchanged, -, hloaded, -⟩ | ⟨e, -, herror, -⟩
  · rw [Settings.set_eq_ok_iff.2 hchanged] at hset
    rw [hloaded, (Prod.mk.inj hset).2]
  · rw [hset] at herror
    cases herror

/-- A path that leads through the place of the preferences and up again: a change of a setting makes
a folder there, and then preferences can no longer be read. -/
theorem preferences_become_folder :
    let folder : Path := ⟨["d", "prefs.json", ".."], .name, 15⟩
    let disk := Disk.empty.put ["d"] .folder
    Path.ofText [] "d/prefs.json/.." = folder ∧ Settings.load disk folder = .ok .standard ∧
    PrefsFile.load disk folder = .ok .empty ∧
    ∃ report disk', (runSettings folder (.change "expiry-days" "7")).outcome disk =
        (.ok report, disk') ∧
      report.messages = [⟨.success, "expiry-days set to 7"⟩] ∧
      disk'.node? ["d", "prefs.json"] = some .folder ∧
      PrefsFile.load disk' folder = .error (.disk .isFolder) := by
  intro folder disk
  refine ⟨by decide, by decide, by decide, _, _, rfl, ?_, ?_, ?_⟩
  · decide
  · decide
  · decide

end Session

end PlanViewer
