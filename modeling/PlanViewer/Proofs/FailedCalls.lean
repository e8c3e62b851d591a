import PlanViewer.Proofs.SavedPreferences
import PlanViewer.Proofs.StoreRuns
import PlanViewer.Session

/-!
# Calls that fail

A call to a session may fail at any of several readings and writings. Yet a call that fails has
changed no file and no setting. For most calls there is one change, and what comes after it cannot
fail. Reading the display preferences and storing a layout make up to three changes in a row. They
are careful (`Step.Careful`): the first change that goes through shows that the file can be loaded
and written, and a file store on which both is so takes all further changes (`Store.Ready`).

What can be left behind are folders, which were made on the way to a file that could not be written.
-/

namespace PlanViewer

open Step

/-! ## Files of preferences -/

namespace Disk

theorem leaves_refl (folder : Path) (file : String) (d : Disk) : d.Leaves folder file d :=
  ⟨.refl d _, fun _ _ => rfl⟩

end Disk

namespace PrefsFile

/-- A catalog can be loaded, and another one saved in its place. -/
def Ready (folder : Path) (d : Disk) : Prop :=
  ∃ c, Keeps d folder c

theorem careful_load (folder : Path) :
    Careful (Disk.Leaves folder fileName) (Ready folder) (Step.ofRead fun d => load d folder) := by
  refine .ofRead (Disk.leaves_refl folder fileName) ?_
  rintro d ⟨c, hkeeps⟩
  exact ⟨c, hkeeps.load_eq⟩

theorem careful_save (folder : Path) (c : Catalog) :
    Careful (Disk.Leaves folder fileName) (Ready folder) (save folder c) where
  failed := TextFile.failsWithin_save fileName folder c.toJson
  done := fun _ _ _ houtcome => Or.inr ⟨c, keeps_of_outcome_save houtcome⟩
  ready := by
    rintro d ⟨_, hkeeps⟩
    obtain ⟨d', houtcome, hkeeps'⟩ := outcome_save hkeeps.writable c
    exact ⟨(), d', houtcome, c, hkeeps'⟩

theorem careful_set (folder : Path) (now : Instant) (name value : String) (days : Int64) :
    Careful (Disk.Leaves folder fileName) (Ready folder) (set folder now name value days) :=
  (careful_load folder).bind fun _ => careful_save folder _

theorem careful_delete (folder : Path) (now : Instant) (name : String) :
    Careful (Disk.Leaves folder fileName) (Ready folder) (delete folder now name) := by
  refine (careful_load folder).bind fun c => ?_
  cases c.get? name with
  | none => exact .pure ()
  | some p => exact careful_save folder _

end PrefsFile

/-! ## Stores -/

namespace Store

/-- What a failure leaves behind in a store. -/
inductive Leaves : Store → Store → Prop
  | nothing (s : Store) : Leaves s s
  | folders {root : Path} {disk disk' : Disk} :
      disk.Leaves root PrefsFile.fileName disk' → Leaves ⟨.file root, disk⟩ ⟨.file root, disk'⟩

/-- The store takes all changes. -/
inductive Ready : Store → Prop
  | memory (held : Memory) (disk : Disk) : Ready ⟨.memory held, disk⟩
  | cookies (jar : CookieJar) (disk : Disk) : Ready ⟨.cookies jar, disk⟩
  | file {root : Path} {disk : Disk} : PrefsFile.Ready root disk → Ready ⟨.file root, disk⟩

/-- A step that cannot fail in memory or cookies is careful if what it does on the disk is. -/
theorem careful_of_file {α : Type} {step : Step Store α} {onFile : Path → Step Disk α}
    (hmemory : ∀ held disk, ∃ a held', step.outcome ⟨.memory held, disk⟩ =
      (.ok a, ⟨.memory held', disk⟩))
    (hcookies : ∀ jar disk, ∃ a jar', step.outcome ⟨.cookies jar, disk⟩ =
      (.ok a, ⟨.cookies jar', disk⟩))
    (hfile : ∀ root disk, step.outcome ⟨.file root, disk⟩ =
      (onDisk (onFile root)).outcome ⟨.file root, disk⟩)
    (hcareful : ∀ root, Careful (Disk.Leaves root PrefsFile.fileName)
      (PrefsFile.Ready root) (onFile root)) :
    Careful Leaves Ready step where
  failed := by
    rintro ⟨held | jar | root, disk⟩ e s' houtcome
    · obtain ⟨a, held', hok⟩ := hmemory held disk
      rw [hok] at houtcome
      cases houtcome
    · obtain ⟨a, jar', hok⟩ := hcookies jar disk
      rw [hok] at houtcome
      cases houtcome
    · rw [hfile] at houtcome
      obtain ⟨disk', hstep, rfl⟩ := onPart_cases houtcome
      exact .folders ((hcareful root).failed _ _ _ hstep)
  done := by
    rintro ⟨held | jar | root, disk⟩ a s' houtcome
    · obtain ⟨b, held', hok⟩ := hmemory held disk
      rw [hok] at houtcome
      cases houtcome
      exact Or.inr (.memory held' disk)
    · obtain ⟨b, jar', hok⟩ := hcookies jar disk
      rw [hok] at houtcome
      cases houtcome
      exact Or.inr (.cookies jar' disk)
    · rw [hfile] at houtcome
      obtain ⟨disk', hstep, rfl⟩ := onPart_cases houtcome
      rcases (hcareful root).done _ _ _ hstep with rfl | hready
      · exact Or.inl rfl
      · exact Or.inr (.file hready)
  ready := by
    rintro _ (⟨held, disk⟩ | ⟨jar, disk⟩ | @⟨root, disk, hready⟩)
    · obtain ⟨a, held', hok⟩ := hmemory held disk
      exact ⟨a, _, hok, .memory held' disk⟩
    · obtain ⟨a, jar', hok⟩ := hcookies jar disk
      exact ⟨a, _, hok, .cookies jar' disk⟩
    · obtain ⟨a, disk', hok, hready'⟩ := (hcareful root).ready disk hready
      refine ⟨a, ⟨.file root, disk'⟩, ?_, .file hready'⟩
      rw [hfile, outcome_onDisk, hok]

theorem careful_set (now : Instant) (name value : String) (days : Int64) :
    Careful Leaves Ready (set now name value days) :=
  careful_of_file (fun _ _ => ⟨(), _, rfl⟩) (fun _ _ => ⟨(), _, rfl⟩) (fun _ _ => rfl)
    fun root => PrefsFile.careful_set root now name value days

theorem careful_delete (now : Instant) (name : String) :
    Careful Leaves Ready (delete now name) :=
  careful_of_file (fun _ _ => ⟨(), _, rfl⟩) (fun _ _ => ⟨(), _, rfl⟩) (fun _ _ => rfl)
    fun root => PrefsFile.careful_delete root now name

theorem careful_value? (now : Instant) (key : PrefKey) :
    Careful Leaves Ready (value? now key) := by
  refine .ofRead .nothing ?_
  rintro _ (⟨held, disk⟩ | ⟨jar, disk⟩ | @⟨root, disk, c, hkeeps⟩)
  · exact ⟨_, rfl⟩
  · exact ⟨_, rfl⟩
  · refine ⟨c.value? now key.name, ?_⟩
    show PrefsFile.get? disk root now key.name = _
    rw [PrefsFile.get?, hkeeps.load_eq]
    rfl

end Store

/-! ## Several changes in a row -/

namespace DisplayPrefs

open Store

theorem careful_provide (now : Instant) (key : PrefKey) (default : String) (days : Int64) :
    Careful Leaves Ready (provide now key default days) := by
  refine (careful_value? now key).bind fun value => ?_
  cases value.filter fun v => decide (v ≠ "") with
  | none =>
    -- what follows the change is a reading, which goes through once the change has
    exact (careful_set now key.name default days).bind fun _ =>
      (careful_value? now key).bind fun _ => .pure _
  | some value => exact .pure value

theorem careful_readInteger (now : Instant) (key : PrefKey) :
    Careful Leaves Ready (readInteger now key) :=
  (careful_value? now key).bind fun _ => .pure _

/-- **Reading the display preferences is careful**, although it may store two defaults. -/
theorem careful_load (now : Instant) (days : Int64) : Careful Leaves Ready (load now days) :=
  (careful_provide now _ _ days).bind fun _ =>
    (careful_provide now _ _ days).bind fun _ =>
      (careful_readInteger now .pixels).bind fun _ =>
        (careful_readInteger now .height).bind fun _ =>
          (careful_readInteger now .scale).bind fun _ =>
            (careful_value? now .custom).bind fun _ => .pure _

/-- **Storing a layout is careful.** -/
theorem careful_saveLayout (now : Instant) (pixels height scale days : Int64) :
    Careful Leaves Ready (saveLayout now pixels height scale days) :=
  (careful_set now _ _ days).bind fun _ =>
    (careful_set now _ _ days).bind fun _ => careful_set now _ _ days

end DisplayPrefs

/-! ## Sessions -/

namespace Session

/-- What a failure on the store leaves behind in a session. -/
def Leaves (s s' : Session) : Prop :=
  ∃ store', s.store.Leaves store' ∧ s' = { s with store := store' }

theorem leaves_refl (s : Session) : Leaves s s :=
  ⟨s.store, .nothing s.store, rfl⟩

theorem failsWithin_onStore {α : Type} {step : Step Store α} (h : FailsWithin Store.Leaves step) :
    FailsWithin Leaves (onStore step) :=
  h.onPart fun _ store' hleaves => ⟨store', hleaves, rfl⟩

theorem readsOnly_onStore {α : Type} {step : Step Store α} (h : ReadsOnly step) :
    ReadsOnly (onStore step) :=
  h.onPart fun _ => rfl

theorem readsOnly_value? (now : Instant) (key : PrefKey) : ReadsOnly (Store.value? now key) :=
  .ofRead _

theorem readsOnly_get (now : Instant) (text : String) : ReadsOnly (get now text) :=
  (ReadsOnly.ofExcept _).bind fun key =>
    readsOnly_onStore ((readsOnly_value? now key).bind fun _ => .pure _)

theorem failsWithin_set (now : Instant) (text value : String) (days : Option Int64) :
    FailsWithin Leaves (set now text value days) :=
  .after_readsOnly leaves_refl (.ofExcept _) fun key =>
    .after_readsOnly leaves_refl .getThe fun _ =>
      .before_succeeds (failsWithin_onStore (Store.careful_set now key.name value _).failed)
        fun _ => .pure _

theorem failsWithin_delete (now : Instant) (text : String) :
    FailsWithin Leaves (delete now text) :=
  .after_readsOnly leaves_refl (.ofExcept _) fun key =>
    .after_readsOnly leaves_refl (readsOnly_onStore (readsOnly_value? now key)) fun _ =>
      .before_succeeds (failsWithin_onStore (Store.careful_delete now key.name).failed)
        fun _ => .pure _

theorem readsOnly_list (now : Instant) : ReadsOnly (list now) :=
  (ReadsOnly.ofRead _).bind fun _ => .pure _

theorem failsWithin_display (now : Instant) : FailsWithin Leaves (display now) :=
  .after_readsOnly leaves_refl .getThe fun _ =>
    .before_succeeds (failsWithin_onStore (DisplayPrefs.careful_load now _).failed) fun _ => .pure _

theorem failsWithin_saveLayout (now : Instant) (pixels height scale : Int64) :
    FailsWithin Leaves (saveLayout now pixels height scale) :=
  .after_readsOnly leaves_refl .getThe fun _ =>
    .before_succeeds
      (failsWithin_onStore (DisplayPrefs.careful_saveLayout now pixels height scale _).failed)
      fun _ => .pure _

theorem readsOnly_customNodes (now : Instant) : ReadsOnly (customNodes now) :=
  (readsOnly_value? now .custom).bind fun _ => .pure _

theorem readsOnly_isCustomNode (now : Instant) (c : Candidates) (mode : Option MatchMode) :
    ReadsOnly (isCustomNode now c mode) :=
  ReadsOnly.getThe.bind fun _ =>
    readsOnly_onStore ((readsOnly_customNodes now).bind fun _ => .pure _)

theorem readsOnly_customPatterns (now : Instant) : ReadsOnly (customPatterns now) :=
  (readsOnly_onStore (readsOnly_customNodes now)).bind fun _ => .pure _

theorem failsWithin_runSettings (folder : Path) (request : SettingsRequest) :
    FailsWithin (Disk.Leaves folder Settings.fileName) (runSettings folder request) := by
  have hrefl := Disk.leaves_refl folder Settings.fileName
  refine .after_readsOnly hrefl (.ofRead _) fun settings => ?_
  cases request with
  | showAll => exact .of_readsOnly hrefl (.pure _)
  | showKey key => exact .of_readsOnly hrefl (.pure _)
  | change key value =>
    dsimp only
    rcases (Settings.set key value).outcome settings with ⟨e | _, changed⟩
    · exact .of_readsOnly hrefl (.pure _)
    · exact .before_succeeds (TextFile.failsWithin_save Settings.fileName folder changed.toJson)
        fun _ => .pure _

/-- Settings are put in force after all that can fail. -/
theorem configure_error {request : SettingsRequest} {s s' : Session} {e : PrefsError}
    (h : (configure request).outcome s = (.error e, s')) :
    ∃ disk', s.store.disk.Leaves s.folder Settings.fileName disk' ∧
      s' = { s with store := { s.store with disk := disk' } } := by
  -- the step takes its folder from the session, so the readings come first and are opened here
  have hget : (getThe Session : Step Session Session).outcome s = (.ok s, s) := rfl
  rw [configure, outcome_bind hget] at h
  have hdisk : FailsWithin
      (fun t t' : Store => ∃ disk', t.disk.Leaves s.folder Settings.fileName disk' ∧
        t' = { t with disk := disk' })
      (Store.onDisk (runSettings s.folder request)) :=
    (failsWithin_runSettings s.folder request).onPart fun t disk' hleaves => ⟨disk', hleaves, rfl⟩
  have hstore : FailsWithin
      (fun t t' : Session => ∃ disk', t.store.disk.Leaves s.folder Settings.fileName disk' ∧
        t' = { t with store := { t.store with disk := disk' } })
      (onStore (Store.onDisk (runSettings s.folder request))) := by
    refine hdisk.onPart ?_
    rintro t _ ⟨disk', hleaves, rfl⟩
    exact ⟨disk', hleaves, rfl⟩
  refine hstore.before_succeeds ?_ s e s' h
  intro report t
  dsimp only
  cases report.settings with
  | none => exact ⟨report, t, rfl⟩
  | some settings => exact ⟨report, _, rfl⟩

/-- The folder that a call may write to. -/
def Call.folder (root settingsFolder : Path) : Call → Path
  | .configure _ => settingsFolder
  | _ => root

/-- The file that a call may write. -/
def Call.file : Call → String
  | .configure _ => Settings.fileName
  | _ => PrefsFile.fileName

theorem disk_of_leaves {s s' : Session} {root : Path} (hroot : s.store.backend = .file root)
    (h : s.Leaves s') :
    ∃ disk', s.store.disk.Leaves root PrefsFile.fileName disk' ∧
      s' = { s with store := { s.store with disk := disk' } } := by
  obtain ⟨⟨backend, disk⟩, folder, settings, controls⟩ := s
  obtain ⟨store', hstore, rfl⟩ := h
  cases hstore with
  | nothing => exact ⟨disk, Disk.leaves_refl root _ disk, rfl⟩
  | folders hleaves =>
    cases hroot
    exact ⟨_, hleaves, rfl⟩

/-- All calls but those about settings end in what a failure on the store leaves behind. -/
theorem failsWithin_perform (now : Instant) {call : Call}
    (hcall : ∀ request, call ≠ .configure request) : FailsWithin Leaves (perform now call) := by
  have hread : ∀ {α : Type} {step : Step Session α}, ReadsOnly step → FailsWithin Leaves step :=
    fun hstep => .of_readsOnly leaves_refl hstep
  cases call with
  | get text => exact (hread (readsOnly_get now text)).before_succeeds fun _ => .pure _
  | set text value days =>
    exact (failsWithin_set now text value days).before_succeeds fun _ => .pure _
  | delete text => exact (failsWithin_delete now text).before_succeeds fun _ => .pure _
  | list => exact (hread (readsOnly_list now)).before_succeeds fun _ => .pure _
  | display => exact (failsWithin_display now).before_succeeds fun _ => .pure _
  | saveLayout pixels height scale =>
    exact (failsWithin_saveLayout now pixels height scale).before_succeeds fun _ => .pure _
  | isCustomNode c mode =>
    exact (hread (readsOnly_isCustomNode now c mode)).before_succeeds fun _ => .pure _
  | customPatterns => exact (hread (readsOnly_customPatterns now)).before_succeeds fun _ => .pure _
  | configure request => exact absurd rfl (hcall request)

/-- **One call.** Whatever fails, the disk is what a failing save leaves behind, and the rest of the
session is as it was. -/
theorem perform_error {now : Instant} {call : Call} {s s' : Session} {root : Path}
    {e : PrefsError} (hroot : s.store.backend = .file root)
    (h : (perform now call).outcome s = (.error e, s')) :
    ∃ disk', s.store.disk.Leaves (call.folder root s.folder) call.file disk' ∧
      s' = { s with store := { s.store with disk := disk' } } := by
  by_cases hcall : ∃ request, call = .configure request
  · obtain ⟨request, rfl⟩ := hcall
    rcases error_cases h with hconfigure | ⟨report, mid, -, hpure⟩
    · exact configure_error hconfigure
    · cases hpure
  · have hother : ∀ request, call ≠ .configure request := fun request heq => hcall ⟨request, heq⟩
    have hfolder : call.folder root s.folder = root := by
      cases call with
      | configure request => exact absurd rfl (hother request)
      | _ => rfl
    have hfile : call.file = PrefsFile.fileName := by
      cases call with
      | configure request => exact absurd rfl (hother request)
      | _ => rfl
    rw [hfolder, hfile]
    exact disk_of_leaves hroot (failsWithin_perform now hother s e s' h)

end Session

/-! ## Layouts that are stored -/

open ExpiringMap

/-- The map with the three numbers of a layout. -/
def ExpiringMap.setLayout (m : ExpiringMap) (now : Instant) (pixels height scale days : Int64) :
    ExpiringMap :=
  ((m.set now PrefKey.pixels.name (Text.Decimal.ofInt64 pixels) days).set now
    PrefKey.height.name (Text.Decimal.ofInt64 height) days).set now
      PrefKey.scale.name (Text.Decimal.ofInt64 scale) days

namespace Store

variable {s s' : Store} {l : List Preference}

/-- A value that has been kept in a file tells that the file could be loaded and written. -/
theorem holds_of_set {root : Path} {disk : Disk} {now : Instant} {name value : String}
    {days : Int64} (h : (set now name value days).outcome ⟨.file root, disk⟩ = (.ok (), s')) :
    ∃ c : Catalog, Holds ⟨.file root, disk⟩ c.entries := by
  have honDisk : (onDisk (PrefsFile.set root now name value days)).outcome ⟨.file root, disk⟩ =
      (.ok (), s') := h
  obtain ⟨disk', hset, -⟩ := onPart_cases honDisk
  obtain ⟨c, mid, hload, hsave⟩ := ok_cases hset
  obtain ⟨hresult, rfl⟩ := Prod.mk.inj hload
  exact ⟨c, .file ⟨hresult, TextFile.writable_of_outcome_save (by decide) hsave⟩⟩

/-- A layout is stored as a whole. -/
theorem Holds.saveLayout (h : Holds s l) (now : Instant) (pixels height scale days : Int64) :
    ∃ s' l', (DisplayPrefs.saveLayout now pixels height scale days).outcome s = (.ok (), s') ∧
      Holds s' l' ∧
      Agree now (ofEntries l') ((ofEntries l).setLayout now pixels height scale days) := by
  obtain ⟨s₁, l₁, houtcome₁, hs₁, hset₁⟩ :=
    h.set now PrefKey.pixels.name (Text.Decimal.ofInt64 pixels) days
  obtain ⟨s₂, l₂, houtcome₂, hs₂, hset₂⟩ :=
    hs₁.set now PrefKey.height.name (Text.Decimal.ofInt64 height) days
  obtain ⟨s₃, l₃, houtcome₃, hs₃, hset₃⟩ :=
    hs₂.set now PrefKey.scale.name (Text.Decimal.ofInt64 scale) days
  -- every change may drop what has expired, which the maps that agree do not tell
  refine ⟨s₃, l₃, ?_, hs₃, ?_⟩
  · rw [DisplayPrefs.saveLayout, outcome_bind houtcome₁, outcome_bind houtcome₂, houtcome₃]
  · exact hset₃.trans ((hset₂.trans (hset₁.set now _ _ days)).set now _ _ days)

theorem Holds.get?_eq_of_agree {m : ExpiringMap} {now later : Instant} (h : Holds s l)
    (hagree : Agree now (ofEntries l) m) (hlater : now ≤ later) (name : String) :
    s.get? later name = .ok (m.get? later name) := by
  rw [h.get?_eq, (hagree.of_le hlater).get?_eq]

end Store

namespace Session

/-- A layout that has been stored in a file is there as a whole, from now on. -/
theorem saveLayout_ok {now : Instant} {pixels height scale : Int64} {s s' : Session} {root : Path}
    {report : Report} (hroot : s.store.backend = .file root)
    (h : (saveLayout now pixels height scale).outcome s = (.ok report, s')) :
    ∃ m : ExpiringMap, ∀ later, now ≤ later → ∀ name,
      s.store.get? later name = .ok (m.get? later name) ∧
      s'.store.get? later name =
        .ok ((m.setLayout now pixels height scale s.settings.expiryDays).get? later name) := by
  obtain ⟨⟨backend, disk⟩, folder, settings, controls⟩ := s
  cases hroot
  have hget : (getThe Session : Step Session Session).outcome
      ⟨⟨.file root, disk⟩, folder, settings, controls⟩ = (.ok _, _) := rfl
  rw [saveLayout, outcome_bind hget] at h
  obtain ⟨_, mid, honStore, hreport⟩ := ok_cases h
  obtain ⟨store', hlayout, rfl⟩ := onPart_cases honStore
  cases hreport
  -- the first number that is stored shows what the file holds
  obtain ⟨_, first, hset, -⟩ := ok_cases hlayout
  obtain ⟨c, hholds⟩ := Store.holds_of_set hset
  obtain ⟨store'', l, houtcome, hholds', hagree⟩ :=
    hholds.saveLayout now pixels height scale settings.expiryDays
  have hsame : store' = store'' := congrArg Prod.snd (hlayout.symm.trans houtcome)
  subst hsame
  refine ⟨ofEntries c.entries, fun later hlater name => ⟨hholds.get?_eq later name, ?_⟩⟩
  exact hholds'.get?_eq_of_agree hagree hlater name

/-- A session stores a layout when its store does. -/
theorem perform_saveLayout_ok {now : Instant} {pixels height scale : Int64} {s : Session}
    {store' : Store}
    (h : (DisplayPrefs.saveLayout now pixels height scale s.settings.expiryDays).outcome s.store =
      (.ok (), store')) :
    ∃ answer, (perform now (.saveLayout pixels height scale)).outcome s =
      (.ok answer, { s with store := store' }) := by
  have hget : (getThe Session : Step Session Session).outcome s = (.ok s, s) := rfl
  have honStore : (onStore
      (DisplayPrefs.saveLayout now pixels height scale s.settings.expiryDays)).outcome s =
        (.ok (), { s with store := store' }) := by
    rw [onStore, outcome_onPart, h]
  obtain ⟨report, hreport⟩ : ∃ report, (saveLayout now pixels height scale).outcome s =
      (.ok report, { s with store := store' }) := by
    rw [saveLayout, outcome_bind hget, outcome_bind honStore]
    exact ⟨_, rfl⟩
  exact ⟨.report report, outcome_bind hreport _⟩

/-- **A call that fails has changed no file and no setting.** When a call to a session over a file
store fails, the session is as it was but for the disk. There every file is as it was, and there are
no new files. Folders may have been made, on the way to the file that the call would have written;
but not even that when the disk is a tree and that folder is there, or can be approached: what is
missing on the way to it are plain names, and the path does not end in `.` and is not too long. And
when a layout has been stored, all three of its numbers have been. -/
theorem failed_call_exact (now : Instant) {s : Session} {root : Path}
    (hroot : s.store.backend = .file root) :
    (∀ call e s', (perform now call).outcome s = (.error e, s') →
      ∃ disk', s' = { s with store := { s.store with disk := disk' } } ∧
        (∀ place bytes, disk'.node? place = some (.file bytes) ↔
          s.store.disk.node? place = some (.file bytes)) ∧
        s.store.disk.MakesFolders (call.folder root s.folder).names disk' ∧
        (s.store.disk.IsTree →
          s.store.disk.Approachable (call.folder root s.folder) call.file → s' = s)) ∧
      ∀ pixels height scale answer s',
        (perform now (.saveLayout pixels height scale)).outcome s = (.ok answer, s') →
        ∃ m : ExpiringMap, ∀ later, now ≤ later → ∀ name,
          s.store.get? later name = .ok (m.get? later name) ∧
          s'.store.get? later name =
            .ok ((m.setLayout now pixels height scale s.settings.expiryDays).get? later name) := by
  refine ⟨?_, ?_⟩
  · intro call e s' houtcome
    obtain ⟨disk', hleaves, rfl⟩ := perform_error hroot houtcome
    refine ⟨disk', rfl, fun place bytes => hleaves.foldersOnly.file_iff, hleaves.foldersOnly, ?_⟩
    intro htree happroachable
    rw [hleaves.nothing htree happroachable]
  · intro pixels height scale answer s' houtcome
    obtain ⟨report, mid, hlayout, hanswer⟩ := ok_cases houtcome
    cases hanswer
    exact saveLayout_ok hroot hlayout

/-- A file stands in the way of the folder when the display preferences are read; and where nothing
stands in the way, a layout is stored. -/
theorem failed_call_exact_file_in_way :
    let root : Path := ⟨["d", "sub"], .name, 5⟩
    let s := withSettings ⟨.file root, Disk.empty.put ["d"] (.file .empty)⟩ root .standard
    let vacant := withSettings ⟨.file root, .empty⟩ root .standard
    (s.store.backend = .file root ∧ s.store.disk.IsTree ∧
      s.store.disk.Approachable root PrefsFile.fileName) ∧
    (∃ s', (perform .earliest .display).outcome s = (.error (.disk .notFolder), s') ∧ s' = s) ∧
    ∃ answer s', (perform .earliest (.saveLayout 10 20 30)).outcome vacant = (.ok answer, s') ∧
      ∃ m : ExpiringMap, ∀ name, vacant.store.get? .earliest name = .ok (m.get? .earliest name) ∧
        s'.store.get? .earliest name =
          .ok ((m.setLayout .earliest 10 20 30 365).get? .earliest name) := by
  intro root s vacant
  have hroot : s.store.backend = .file root := rfl
  have htree : (Disk.empty.put ([] ++ ["d"]) (.file .empty)).IsTree :=
    Disk.isTree_empty.put rfl (by decide) _
  have hplain : ∀ n ∈ ["d", "sub"], Disk.IsPlainName n := by decide
  have happroachable : s.store.disk.Approachable root PrefsFile.fileName :=
    Or.inr ⟨[], ["d", "sub"], [], rfl, .here [], hplain, rfl, by decide, by decide⟩
  obtain ⟨s', houtcome⟩ : ∃ s', (perform .earliest .display).outcome s =
      (.error (.disk .notFolder), s') := ⟨_, rfl⟩
  obtain ⟨disk', -, -, -, hsame⟩ := (failed_call_exact .earliest hroot).1 .display _ s' houtcome
  have hvacant : vacant.store.backend = .file root := rfl
  have hsave : (Disk.empty.save root PrefsFile.fileName "").1 = .ok () := by decide
  have hkeeps : PrefsFile.Keeps .empty root .empty := ⟨rfl, Disk.writable_of_save (by decide) hsave⟩
  obtain ⟨store', -, hlayout, -, -⟩ :=
    (Store.Holds.file hkeeps).saveLayout .earliest 10 20 30 vacant.settings.expiryDays
  obtain ⟨answer, hstored⟩ := perform_saveLayout_ok hlayout
  obtain ⟨m, hm⟩ := (failed_call_exact .earliest hvacant).2 10 20 30 answer _ hstored
  exact ⟨⟨hroot, htree, happroachable⟩, ⟨s', houtcome, hsame htree happroachable⟩, answer, _,
    hstored, m, fun name => hm .earliest (by decide) name⟩

/-- A folder that is missing below a missing folder, and whose path ends in `.`: the folder above is
made, and stays when the one below cannot be made. -/
theorem failed_set_leaves_folder :
    Path.ofText [] "a/b/." = ⟨["a", "b"], .dot, 5⟩ ∧
      ∃ s', (perform .earliest (.set "gen" "1" none)).outcome
          (withSettings ⟨.file ⟨["a", "b"], .dot, 5⟩, .empty⟩ ⟨["a", "b"], .dot, 5⟩ .standard) =
            (.error (.disk .missing), s') ∧
        s'.store.disk.node? ["a"] = some .folder ∧
        s' ≠ withSettings ⟨.file ⟨["a", "b"], .dot, 5⟩, .empty⟩ ⟨["a", "b"], .dot, 5⟩
          .standard := by
  refine ⟨by decide, _, rfl, by decide, ?_⟩
  decide

end Session

end PlanViewer
