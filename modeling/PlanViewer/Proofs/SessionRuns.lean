import PlanViewer.Proofs.FailedCalls
import PlanViewer.Proofs.MissingNames
import PlanViewer.Proofs.SavedSettings

/-!
# Sessions that go on and sessions that are opened anew

A session reads the settings of its folder when it is opened, and holds them from then on. Whoever
opens a session for every call reads them every time. Both get the same answers and leave the same
disk as long as the settings held are those that would be read (`Session.InForce`). Every call keeps
this: settings are put in force when they have been written, preferences go to another file, and a
call that fails has written neither.

There is one thing to be said about the folder. The first change makes it, if it is missing, and
this must not bring a settings file into sight that could not be seen before. It can do so only when
the path to the folder goes up again past a missing name.
-/

namespace PlanViewer

open Step

/-! ## What calls to a store change -/

namespace Store

/-- What calls to a store can change: what is held in memory, the cookies of a jar, where no name
comes to stand twice, and the file in the folder of a file store. -/
inductive Changes : Store → Store → Prop
  | nothing (s : Store) : Changes s s
  | memory (held held' : Memory) (disk : Disk) : Changes ⟨.memory held, disk⟩ ⟨.memory held', disk⟩
  | cookies {jar jar' : CookieJar} (disk : Disk) :
      (NamesDistinct jar.cookies → NamesDistinct jar'.cookies) →
      Changes ⟨.cookies jar, disk⟩ ⟨.cookies jar', disk⟩
  | save (root : Path) (disk : Disk) (text : String) :
      Changes ⟨.file root, disk⟩ ⟨.file root, (disk.save root PrefsFile.fileName text).2⟩
  | later {s mid s' : Store} : Changes s mid → Changes mid s' → Changes s s'

/-- The changes on the disk of a file store. -/
def ChangesDisk (root : Path) (disk disk' : Disk) : Prop :=
  Changes ⟨.file root, disk⟩ ⟨.file root, disk'⟩

theorem movesWithin_save (root : Path) (c : Catalog) :
    MovesWithin (ChangesDisk root) (PrefsFile.save root c) :=
  fun disk => .save root disk c.toJson

theorem movesWithin_load (root : Path) :
    MovesWithin (ChangesDisk root) (Step.ofRead fun disk => PrefsFile.load disk root) :=
  .of_readsOnly (fun _ => .nothing _) (.ofRead _)

/-- A step changes what calls can change if what it does on the disk of a file store does. -/
theorem movesWithin_of_file {α : Type} {step : Step Store α} {onFile : Path → Step Disk α}
    (hmemory : ∀ held disk, ∃ held', (step.outcome ⟨.memory held, disk⟩).2 = ⟨.memory held', disk⟩)
    (hcookies : ∀ jar disk, ∃ jar', (step.outcome ⟨.cookies jar, disk⟩).2 = ⟨.cookies jar', disk⟩ ∧
      (NamesDistinct jar.cookies → NamesDistinct jar'.cookies))
    (hfile : ∀ root disk, step.outcome ⟨.file root, disk⟩ =
      (onDisk (onFile root)).outcome ⟨.file root, disk⟩)
    (hmoves : ∀ root, MovesWithin (ChangesDisk root) (onFile root)) :
    MovesWithin Changes step := by
  rintro ⟨held | jar | root, disk⟩
  · obtain ⟨held', heq⟩ := hmemory held disk
    rw [heq]
    exact .memory held held' disk
  · obtain ⟨jar', heq, hdistinct⟩ := hcookies jar disk
    rw [heq]
    exact .cookies disk hdistinct
  · rw [hfile, outcome_onDisk]
    exact hmoves root disk

theorem movesWithin_set (now : Instant) (name value : String) (days : Int64) :
    MovesWithin Changes (set now name value days) :=
  movesWithin_of_file (fun _ _ => ⟨_, rfl⟩)
    (fun _ _ => ⟨_, rfl, fun h => CookieJar.namesDistinct_replaceOrAdd h _⟩) (fun _ _ => rfl)
    fun root => (movesWithin_load root).bind .later fun _ => movesWithin_save root _

theorem movesWithin_delete (now : Instant) (name : String) :
    MovesWithin Changes (delete now name) := by
  refine movesWithin_of_file (fun _ _ => ⟨_, rfl⟩) (fun _ _ => ⟨_, rfl, fun h => h.filter _⟩)
    (fun _ _ => rfl) fun root => (movesWithin_load root).bind .later fun c => ?_
  cases c.get? name with
  | none => exact .of_readsOnly (fun _ => .nothing _) (.pure ())
  | some p => exact movesWithin_save root _

theorem movesWithin_value? (now : Instant) (key : PrefKey) :
    MovesWithin Changes (value? now key) :=
  .of_readsOnly .nothing (.ofRead _)

theorem movesWithin_pure {α : Type} (a : α) : MovesWithin Changes (pure a : Step Store α) :=
  .of_readsOnly .nothing (.pure a)

end Store

namespace DisplayPrefs

open Store

theorem movesWithin_provide (now : Instant) (key : PrefKey) (default : String) (days : Int64) :
    MovesWithin Changes (provide now key default days) := by
  refine (movesWithin_value? now key).bind .later fun value => ?_
  cases value.filter fun v => decide (v ≠ "") with
  | none =>
    exact (movesWithin_set now key.name default days).bind .later fun _ =>
      (movesWithin_value? now key).bind .later fun _ => movesWithin_pure _
  | some value => exact movesWithin_pure value

theorem movesWithin_load (now : Instant) (days : Int64) :
    MovesWithin Changes (load now days) := by
  have hread : ∀ key, MovesWithin Changes (readInteger now key) :=
    fun key => (movesWithin_value? now key).bind .later fun _ => movesWithin_pure _
  exact (movesWithin_provide now _ _ days).bind .later fun _ =>
    (movesWithin_provide now _ _ days).bind .later fun _ =>
      (hread .pixels).bind .later fun _ => (hread .height).bind .later fun _ =>
        (hread .scale).bind .later fun _ =>
          (movesWithin_value? now .custom).bind .later fun _ => movesWithin_pure _

theorem movesWithin_saveLayout (now : Instant) (pixels height scale days : Int64) :
    MovesWithin Changes (saveLayout now pixels height scale days) :=
  (movesWithin_set now _ _ days).bind .later fun _ =>
    (movesWithin_set now _ _ days).bind .later fun _ => movesWithin_set now _ _ days

end DisplayPrefs

namespace Session

/-! ## What calls to a session change -/

/-- Nothing has changed but what calls to the store can change. -/
def ChangesStore (s s' : Session) : Prop :=
  ∃ store', s.store.Changes store' ∧ s' = { s with store := store' }

theorem changesStore_refl (s : Session) : ChangesStore s s :=
  ⟨s.store, .nothing _, rfl⟩

theorem changesStore_trans {s mid s' : Session} (h : ChangesStore s mid)
    (h' : ChangesStore mid s') : ChangesStore s s' := by
  obtain ⟨store, hstore, rfl⟩ := h
  obtain ⟨store', hstore', rfl⟩ := h'
  exact ⟨store', hstore.later hstore', rfl⟩

theorem movesWithin_onStore {α : Type} {step : Step Store α}
    (h : MovesWithin Store.Changes step) : MovesWithin ChangesStore (onStore step) :=
  h.onPart fun _ store' hstore => ⟨store', hstore, rfl⟩

/-- All calls but those about settings change nothing but the store. -/
theorem movesWithin_perform (now : Instant) {call : Call}
    (hcall : ∀ request, call ≠ .configure request) :
    MovesWithin ChangesStore (perform now call) := by
  have hread : ∀ {α : Type} {step : Step Session α}, ReadsOnly step →
      MovesWithin ChangesStore step := fun h => .of_readsOnly changesStore_refl h
  have hbind : ∀ {α β : Type} {step : Step Session α} {next : α → Step Session β},
      MovesWithin ChangesStore step → (∀ a, MovesWithin ChangesStore (next a)) →
      MovesWithin ChangesStore (step >>= next) := fun h hnext => h.bind changesStore_trans hnext
  cases call with
  | get text => exact hbind (hread (readsOnly_get now text)) fun _ => hread (.pure _)
  | set text value days =>
    refine hbind (hbind (hread (.ofExcept _)) fun key => ?_) fun _ => hread (.pure _)
    exact hbind (hread .getThe) fun _ =>
      hbind (movesWithin_onStore (Store.movesWithin_set now key.name value _)) fun _ =>
        hread (.pure _)
  | delete text =>
    refine hbind (hbind (hread (.ofExcept _)) fun key => ?_) fun _ => hread (.pure _)
    exact hbind (hread (readsOnly_onStore (readsOnly_value? now key))) fun _ =>
      hbind (movesWithin_onStore (Store.movesWithin_delete now key.name)) fun _ => hread (.pure _)
  | list => exact hbind (hread (readsOnly_list now)) fun _ => hread (.pure _)
  | display =>
    refine hbind (hbind (hread .getThe) fun _ => ?_) fun _ => hread (.pure _)
    exact hbind (movesWithin_onStore (DisplayPrefs.movesWithin_load now _)) fun _ =>
      hread (.pure _)
  | saveLayout pixels height scale =>
    refine hbind (hbind (hread .getThe) fun _ => ?_) fun _ => hread (.pure _)
    exact hbind (movesWithin_onStore (DisplayPrefs.movesWithin_saveLayout now _ _ _ _)) fun _ =>
      hread (.pure _)
  | isCustomNode c mode =>
    exact hbind (hread (readsOnly_isCustomNode now c mode)) fun _ => hread (.pure _)
  | customPatterns => exact hbind (hread (readsOnly_customPatterns now)) fun _ => hread (.pure _)
  | configure request => exact absurd rfl (hcall request)

/-- The settings that an answer about settings puts in force. -/
def reported : Except PrefsError Report → Option Settings
  | .ok report => report.settings
  | .error _ => none

/-- **What a request about settings can do**: report none of them, with no more than the folder
made; report those that are loaded; or change these, save them and report them. -/
theorem runSettings_cases {folder : Path} {disk disk' : Disk} {before : Settings}
    (hload : Settings.load disk folder = .ok before) {request : SettingsRequest}
    {result : Except PrefsError Report}
    (h : (runSettings folder request).outcome disk = (result, disk')) :
    reported result = none ∧ (disk' = disk ∨ disk' = disk.prepared folder) ∨
      reported result = some before ∧ disk' = disk ∨
      ∃ key value changed, (Settings.set key value).outcome before = (.ok (), changed) ∧
        (changed.save folder).outcome disk = (.ok (), disk') ∧ reported result = some changed := by
  rw [runSettings, outcome_bind (outcome_ofRead (Settings.load · folder) hload)] at h
  cases request with
  | showAll =>
    cases h
    exact Or.inr (Or.inl ⟨rfl, rfl⟩)
  | showKey key =>
    cases h
    refine Or.inl ⟨?_, Or.inl rfl⟩
    cases before.get? key <;> rfl
  | change key value =>
    dsimp only at h
    rcases hset : (Settings.set key value).outcome before with ⟨cause | _, changed⟩
    · rw [hset] at h
      cases h
      exact Or.inl ⟨rfl, Or.inl rfl⟩
    · rw [hset] at h
      dsimp only at h
      rcases houtcome : (changed.save folder).outcome disk with ⟨cause | _, saved⟩
      · rw [outcome_bind_of_error houtcome] at h
        cases h
        exact Or.inl ⟨rfl, Or.inr (TextFile.disk_of_outcome_save_error (by decide) houtcome)⟩
      · rw [outcome_bind houtcome] at h
        cases h
        exact Or.inr (Or.inr ⟨key, value, changed, hset, houtcome, rfl⟩)

/-- A request about settings changes the disk, and puts in force what it reports. -/
theorem outcome_configure {request : SettingsRequest} {s : Session} {disk' : Disk}
    {result : Except PrefsError Report}
    (h : (runSettings s.folder request).outcome s.store.disk = (result, disk')) :
    (configure request).outcome s =
      (result, { s with
        store := { s.store with disk := disk' }
        settings := (reported result).getD s.settings }) := by
  have hstore : (onStore (Store.onDisk (runSettings s.folder request))).outcome s =
      (result, { s with store := { s.store with disk := disk' } }) := by
    rw [onStore, outcome_onPart, Store.outcome_onDisk, h]
  rw [configure, outcome_bind (outcome_getThe s)]
  cases result with
  | error e => rw [outcome_bind_of_error hstore]; rfl
  | ok report =>
    rw [outcome_bind hstore]
    dsimp only
    rcases hsettings : report.settings with _ | settings
    · simp only [reported, hsettings]
      rfl
    · simp only [reported, hsettings]
      rfl

end Session

/-! ## Settings in force -/

/-- The settings of a folder are these, and they stay these when the folder is made; and the folder
is where a file store keeps its file. -/
structure Store.Shows (folder : Path) (settings : Settings) (s : Store) : Prop where
  root_eq : ∀ root, s.backend = .file root → root = folder
  loaded : Settings.load s.disk folder = .ok settings
  prepared : Settings.load (s.disk.prepared folder) folder = .ok settings

namespace Store.Changes

variable {s s' : Store}

theorem backend_eq {root : Path} (h : s.Changes s') (hroot : s.backend = .file root) :
    s'.backend = .file root := by
  induction h with
  | nothing s => exact hroot
  | memory held held' disk => cases hroot
  | cookies disk _ => cases hroot
  | save root disk text => exact hroot
  | later _ _ ih ih' => exact ih' (ih hroot)

/-- **Keeping preferences leaves the settings alone.** They are in another file. -/
theorem shows {folder : Path} {settings : Settings} (h : s.Changes s')
    (hs : s.Shows folder settings) : s'.Shows folder settings := by
  induction h with
  | nothing s => exact hs
  | memory held held' disk => exact ⟨nofun, hs.loaded, hs.prepared⟩
  | cookies disk _ => exact ⟨nofun, hs.loaded, hs.prepared⟩
  | save root disk text =>
    obtain rfl : root = folder := hs.root_eq root rfl
    have hload : Settings.load (disk.save root PrefsFile.fileName text).2 root = .ok settings := by
      rw [← hs.prepared]
      exact TextFile.load_congr (Disk.reading_save (by decide) (by decide) disk root text)
    refine ⟨hs.root_eq, hload, ?_⟩
    dsimp only
    rwa [Disk.prepared_save (by decide)]
  | later _ _ ih ih' => exact ih' (ih hs)

end Store.Changes

namespace Session

/-- The settings that the session holds are those of its folder. -/
def InForce (s : Session) : Prop :=
  s.store.Shows s.folder s.settings

/-- What a call comes to where settings are in force. -/
structure Follows (s s' : Session) : Prop where
  folder_eq : s'.folder = s.folder
  controls_eq : s'.controls = s.controls
  backend_eq : ∀ root, s.store.backend = .file root → s'.store.backend = .file root
  settings_eq : s'.settings = s.settings ∨
    ∃ key value, (Settings.set key value).outcome s.settings = (.ok (), s'.settings)
  inForce : s'.InForce

theorem InForce.configure {s : Session} (h : s.InForce) (request : SettingsRequest) :
    s.Follows ((configure request).outcome s).2 := by
  rcases hrun : (runSettings s.folder request).outcome s.store.disk with ⟨result, disk'⟩
  rw [outcome_configure hrun]
  rcases runSettings_cases h.loaded hrun with
    ⟨hnone, hdisk⟩ | ⟨hsame, rfl⟩ | ⟨key, value, changed, hset, hsave, hchanged⟩
  · rw [hnone]
    refine ⟨rfl, rfl, fun _ => id, Or.inl rfl, h.root_eq, ?_, ?_⟩
    · rcases hdisk with rfl | rfl
      · exact h.loaded
      · exact h.prepared
    · rcases hdisk with rfl | rfl
      · exact h.prepared
      · dsimp only
        rw [Disk.prepared_prepared]
        exact h.prepared
  · rw [hsame]
    exact ⟨rfl, rfl, fun _ => id, Or.inl rfl, h⟩
  · rw [hchanged]
    have hdisk : disk' = (s.store.disk.save s.folder Settings.fileName changed.toJson).2 :=
      (congrArg Prod.snd hsave).symm
    refine ⟨rfl, rfl, fun _ => id, Or.inr ⟨key, value, hset⟩, h.root_eq, ?_, ?_⟩
    · exact Settings.load_of_outcome_save hsave
    · dsimp only
      rw [hdisk, Disk.prepared_save (by decide), ← hdisk]
      exact Settings.load_of_outcome_save hsave

/-- **Every call keeps the settings in force**, whether it goes through or not. -/
theorem InForce.perform {s : Session} (h : s.InForce) (now : Instant) (call : Call) :
    s.Follows ((perform now call).outcome s).2 := by
  by_cases hcall : ∃ request, call = .configure request
  · obtain ⟨request, rfl⟩ := hcall
    have hfollows := h.configure request
    rcases hrun : (Session.configure request).outcome s with ⟨e | report, s'⟩
    · rw [hrun] at hfollows
      rwa [Session.perform, outcome_bind_of_error hrun]
    · rw [hrun] at hfollows
      rwa [Session.perform, outcome_bind hrun]
  · obtain ⟨store', hchanges, heq⟩ :=
      movesWithin_perform now (fun request heq => hcall ⟨request, heq⟩) s
    rw [heq]
    exact ⟨rfl, rfl, fun _ => hchanges.backend_eq, Or.inl rfl, hchanges.shows h⟩

/-! ## Runs -/

/-- The answers of one session to a run of calls, each with a reading of the clock, and the session
after them. -/
def run (s : Session) : List (Instant × Call) → List (Except PrefsError Answer) × Session
  | [] => ([], s)
  | (now, call) :: calls =>
    let (answer, s) := (perform now call).outcome s
    let (answers, s) := s.run calls
    (answer :: answers, s)

/-- The answers to a run of calls for each of which a session is opened over the folder, and the
disk after them. -/
def runAnew (folder : Path) (disk : Disk) :
    List (Instant × Call) → Except PrefsError (List (Except PrefsError Answer) × Disk)
  | [] => .ok ([], disk)
  | (now, call) :: calls => do
    let s ← start ⟨.file folder, disk⟩ folder
    let (answer, s) := (perform now call).outcome s
    let (answers, disk) ← runAnew folder s.store.disk calls
    return (answer :: answers, disk)

theorem start_ok {store : Store} {folder : Path} {s : Session}
    (h : start store folder = .ok s) :
    ∃ settings, Settings.load store.disk folder = .ok settings ∧
      s = withSettings store folder settings := by
  rw [start] at h
  rcases hload : Settings.load store.disk folder with e | settings
  · rw [hload] at h
    cases h
  · rw [hload] at h
    cases h
    exact ⟨settings, rfl, rfl⟩

/-- A session that has just been opened holds the settings of its folder. -/
theorem inForce_withSettings {store : Store} {folder : Path} {settings : Settings}
    (hroot : ∀ root, store.backend = .file root → root = folder)
    (hload : Settings.load store.disk folder = .ok settings)
    (hprepared : Settings.load (store.disk.prepared folder) folder =
      Settings.load store.disk folder) :
    (withSettings store folder settings).InForce :=
  ⟨hroot, hload, hprepared.trans hload⟩

/-- Opening a session again gives the session, as long as its page has not been shown. -/
theorem InForce.start_eq {s : Session} (h : s.InForce) (hfresh : s.controls = .fresh) :
    start s.store s.folder = .ok s := by
  obtain ⟨store, folder, settings, controls⟩ := s
  obtain rfl : controls = .fresh := hfresh
  rw [start, h.loaded]
  rfl

theorem InForce.runAnew_eq {s : Session} {folder : Path} (h : s.InForce)
    (hfresh : s.controls = .fresh) (hfolder : s.folder = folder)
    (hbackend : s.store.backend = .file folder) (calls : List (Instant × Call)) :
    runAnew folder s.store.disk calls = .ok ((s.run calls).1, (s.run calls).2.store.disk) := by
  induction calls generalizing s with
  | nil => rfl
  | cons first calls ih =>
    obtain ⟨now, call⟩ := first
    have hstore : (⟨.file folder, s.store.disk⟩ : Store) = s.store := by
      rw [← hbackend]
    have hstart := h.start_eq hfresh
    rw [hfolder, ← hstore] at hstart
    obtain ⟨hfolder', hcontrols', hbackend', -, hforce⟩ := h.perform now call
    have hrest := ih hforce (hcontrols'.trans hfresh) (hfolder'.trans hfolder)
      (hbackend' folder hbackend)
    rw [runAnew, hstart]
    simp only [bind, Except.bind, hrest]
    rfl

/-- **A session that goes on answers like sessions that are opened anew.** Let a session be opened
over a folder in which the preferences are kept as well, and let the settings of the folder stay
what they are when the folder is made. Then opening a session for each call of a run succeeds every
time, and gives the answers of the one session and the disk it leaves, whatever the calls and the
readings of the clock are and whichever calls fail. Settings do stay what they are if the path to
the folder leads down only from its first missing name on, in particular if the folder is there. -/
theorem fresh_sessions_exact {folder : Path} {disk : Disk} {s : Session}
    (hstart : start ⟨.file folder, disk⟩ folder = .ok s) :
    (Settings.load (disk.prepared folder) folder = Settings.load disk folder →
      ∀ calls, runAnew folder disk calls =
        .ok ((s.run calls).1, (s.run calls).2.store.disk)) ∧
    (disk.IsTree → disk.Straight folder →
      Settings.load (disk.prepared folder) folder = Settings.load disk folder) := by
  constructor
  · intro hprepared calls
    obtain ⟨settings, hload, rfl⟩ := start_ok hstart
    have hroot : ∀ root, Backend.file folder = .file root → root = folder :=
      fun root heq => (Backend.file.inj heq).symm
    exact (inForce_withSettings hroot hload hprepared).runAnew_eq rfl rfl rfl calls
  · intro htree hstraight
    exact TextFile.load_congr (Disk.reading_prepared htree hstraight (by decide))

/-- A folder that is made by the first call, which changes a setting. -/
theorem fresh_sessions_exact_missing_folder :
    let folder : Path := ⟨["e", "f"], .name, 4⟩
    let s := withSettings ⟨.file folder, .empty⟩ folder .standard
    let calls : List (Instant × Call) :=
      [(.earliest, .configure (.change "expiry-days" "7")), (.earliest, .set "gen" "1" none),
        (.latest, .display), (.earliest, .get "showGenCookie")]
    (start ⟨.file folder, .empty⟩ folder = .ok s ∧ Disk.empty.IsTree ∧
      Disk.empty.Straight folder) ∧
    Settings.load (Disk.empty.prepared folder) folder = Settings.load .empty folder ∧
    runAnew folder .empty calls = .ok ((s.run calls).1, (s.run calls).2.store.disk) := by
  intro folder s calls
  have hstart : start ⟨.file folder, .empty⟩ folder = .ok s := by decide
  have hstraight : Disk.empty.Straight folder := by decide
  obtain ⟨hrun, hprepared⟩ := fresh_sessions_exact hstart
  have hload := hprepared Disk.isTree_empty hstraight
  exact ⟨⟨hstart, Disk.isTree_empty, hstraight⟩, hload, hrun hload calls⟩

/-- A path that goes up again past a missing folder, to one with a settings file that cannot be
read: a session can be opened until a preference is kept, which makes the missing folder. -/
theorem hidden_settings_come_into_sight :
    let folder : Path := ⟨["a", "..", "d"], .name, 6⟩
    let disk := (Disk.empty.put ["d"] .folder).put ["d", "config.json"] (.file "\x7b".toUTF8)
    let calls : List (Instant × Call) :=
      [(.earliest, .set "gen" "1" none), (.earliest, .get "gen")]
    Path.ofText [] "a/../d" = folder ∧
    start ⟨.file folder, disk⟩ folder = .ok (withSettings ⟨.file folder, disk⟩ folder .standard) ∧
    runAnew folder disk calls = .error (.content .truncated) := by
  intro folder disk calls
  refine ⟨by decide, by decide, ?_⟩
  rfl

end Session

end PlanViewer
