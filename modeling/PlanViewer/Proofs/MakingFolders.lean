import Mathlib.Data.List.Induction
import PlanViewer.Proofs.DiskFiles

/-!
# Folders that are made for a file

A file is saved into a folder that is made first if nothing is there, with all folders that are
missing on the way to it. When something is in the way, folders that have been made stay. So a save
that fails can leave folders behind, but nothing else (`Disk.leaves_of_save`): every file is as it
was, and a place that held nothing holds nothing or a folder on the way.

Not even that happens when what is missing of the way are plain names, on a disk on which whatever
stands somewhere stands in a folder. Then nothing can come in the way once the first folder has been
made, since below it there is nothing. It takes a `..`, a `.` at the end, or a name or path that is
too long to make the first folder and fail at a later one.
-/

namespace PlanViewer.Disk

variable {d d' : Disk} {folder : Path} {file name : String} {here place start names : Place}

/-! ## Trees -/

/-- Whatever stands somewhere stands in a folder. -/
def IsTree (d : Disk) : Prop :=
  ∀ place name, d.node? (place ++ [name]) ≠ none → d.node? place = some .folder

theorem isTree_empty : IsTree empty := by
  intro place name h
  rw [node?, if_neg (by simp)] at h
  exact absurd rfl h

theorem IsTree.node?_eq_none (h : d.IsTree) (hplace : d.node? place ≠ some .folder)
    (name : String) : d.node? (place ++ [name]) = none := by
  rcases hentry : d.node? (place ++ [name]) with _ | e
  · rfl
  · exact absurd (h place name (by rw [hentry]; exact nofun)) hplace

/-- A tree stays one when something is put into one of its folders, unless it takes the place of a
folder. -/
theorem IsTree.put (h : d.IsTree) (hfolder : d.node? here = some .folder)
    (hplace : d.node? (here ++ [name]) ≠ some .folder) (e : Entry) :
    (d.put (here ++ [name]) e).IsTree := by
  intro place other hentry
  by_cases hself : place = here ++ [name]
  · -- nothing stands below the new entry
    subst hself
    rw [node?_put_of_ne d (by simp), h.node?_eq_none hplace] at hentry
    exact absurd rfl hentry
  · rw [node?_put_of_ne d hself]
    by_cases hnew : place ++ [other] = here ++ [name]
    · rw [(List.append_inj_left' hnew rfl), hfolder]
    · rw [node?_put_of_ne d hnew] at hentry
      exact h place other hentry

/-! ## Ways -/

theorem Way.append {last : Place} {rest : Place} (h : d.Way start names here)
    (hrest : d.Way here rest last) : d.Way start (names ++ rest) last := by
  induction h with
  | here place => exact hrest
  | up _ ih => exact .up (ih hrest)
  | down hup hshort hentry _ ih => exact .down hup hshort hentry (ih hrest)

/-- A way in a tree leads from folders to folders, also back up. -/
theorem Way.node?_eq_folder (h : d.Way start names here) (htree : d.IsTree)
    (hstart : d.node? start = some .folder) : d.node? here = some .folder := by
  induction h with
  | here place => exact hstart
  | @up start names last _ ih =>
    apply ih
    rcases List.eq_nil_or_concat start with rfl | ⟨above, name, rfl⟩
    · exact hstart
    · rw [List.concat_eq_append] at hstart ⊢
      rw [List.dropLast_concat]
      exact htree above name (by rw [hstart]; exact nofun)
  | down _ _ hentry _ ih => exact ih hentry

/-- A name that leads down, and that a folder can have. -/
structure IsPlainName (name : String) : Prop where
  notUp : name ≠ ".."
  short : name.utf8ByteSize ≤ Path.nameLimit

instance (name : String) : Decidable (IsPlainName name) :=
  decidable_of_iff (name ≠ ".." ∧ name.utf8ByteSize ≤ Path.nameLimit)
    ⟨fun h => ⟨h.1, h.2⟩, fun h => ⟨h.notUp, h.short⟩⟩

theorem Way.concat (h : d.Way start names here) (hname : IsPlainName name)
    (hentry : d.node? (here ++ [name]) = some .folder) :
    d.Way start (names ++ [name]) (here ++ [name]) :=
  h.append (.down hname.notUp hname.short hentry (.here _))

/-- Plain names lead down past folders, to the end or to the first place that holds none. -/
theorem way_or_stop (hplain : ∀ n ∈ names, IsPlainName n) (start : Place) :
    d.Way start names (start ++ names) ∨
      ∃ front name rest, names = front ++ name :: rest ∧ d.Way start front (start ++ front) ∧
        d.node? (start ++ front ++ [name]) ≠ some .folder := by
  induction names generalizing start with
  | nil => exact Or.inl (by rw [List.append_nil]; exact .here start)
  | cons first names ih =>
    have hfirst : IsPlainName first := hplain first List.mem_cons_self
    by_cases hentry : d.node? (start ++ [first]) = some .folder
    · have hrest := ih (fun n hn => hplain n (List.mem_cons_of_mem first hn)) (start ++ [first])
      simp only [List.append_assoc, List.singleton_append] at hrest
      rcases hrest with hway | ⟨front, name, rest, rfl, hway, hstop⟩
      · exact Or.inl (.down hfirst.notUp hfirst.short hentry hway)
      · refine Or.inr ⟨first :: front, name, rest, rfl, ?_, by simpa using hstop⟩
        exact .down hfirst.notUp hfirst.short hentry hway
    · exact Or.inr ⟨[], first, names, rfl, by simpa using Way.here start, by simpa using hentry⟩

/-! ## Making missing folders -/

theorem withoutSlash_of_not_isDot {ending : Path.Ending} (hdot : ending.isDot = false)
    (names : Place) (size : Nat) :
    Path.withoutSlash ⟨names, ending, size⟩ = ⟨names, .name, size⟩ := by
  cases ending with
  | name => rfl
  | slash => rfl
  | dot => cases hdot
  | dotSlash => cases hdot

theorem makeFolder_of_vacant {ending : Path.Ending} (hdot : ending.isDot = false) {size : Nat}
    (hsize : size ≤ Path.sizeLimit) (h : d.locateFrom [] names = .vacant place) :
    d.makeFolder ⟨names, ending, size⟩ = .ok (d.put place .folder) := by
  rw [makeFolder, withoutSlash_of_not_isDot hdot, locate_of_name names hsize, h]

theorem makeFolder_of_lost {ending : Path.Ending} (hdot : ending.isDot = false) {size : Nat}
    (hsize : size ≤ Path.sizeLimit) (h : d.locateFrom [] names = .lost) :
    d.makeFolder ⟨names, ending, size⟩ = .error .missing := by
  rw [makeFolder, withoutSlash_of_not_isDot hdot, locate_of_name names hsize, h]

/-- Where nothing stands under a name, that name is vacant and what follows it is lost. -/
theorem locateFrom_of_none (hname : IsPlainName name) (hnone : d.node? (here ++ [name]) = none)
    (rest : Place) :
    d.locateFrom here (name :: rest) =
      if rest.isEmpty then .vacant (here ++ [name]) else .lost := by
  rw [locateFrom, if_neg hname.notUp, if_neg (Nat.not_lt.2 hname.short), hnone]

/-- Where a file stands under a name, what follows that name is blocked. -/
theorem locateFrom_of_file (hname : IsPlainName name) {bytes : ByteArray}
    (hfile : d.node? (here ++ [name]) = some (.file bytes)) (rest : Place) :
    d.locateFrom here (name :: rest) =
      if rest.isEmpty then .entry (here ++ [name]) (.file bytes) else .blocked := by
  rw [locateFrom, if_neg hname.notUp, if_neg (Nat.not_lt.2 hname.short), hfile]

/-- The names lead to a folder in which there is nothing. -/
structure LeadsToEmpty (d : Disk) (names place : Place) : Prop where
  tree : d.IsTree
  way : d.Way [] names place
  nothing : ∀ below, d.node? (place ++ [below]) = none

/-- A folder that is made in a folder is empty. -/
theorem makeFolder_of_way (htree : d.IsTree) (hway : d.Way [] names here)
    (hname : IsPlainName name) (hnone : d.node? (here ++ [name]) = none) {ending : Path.Ending}
    (hdot : ending.isDot = false) {size : Nat} (hsize : size ≤ Path.sizeLimit) :
    ∃ d', d.makeFolder ⟨names ++ [name], ending, size⟩ = .ok d' ∧
      d'.LeadsToEmpty (names ++ [name]) (here ++ [name]) := by
  have hfolder : d.node? here = some .folder := hway.node?_eq_folder htree rfl
  have hfree : d.node? (here ++ [name]) ≠ some .folder := by
    rw [hnone]
    exact nofun
  have hvacant : d.locateFrom [] (names ++ [name]) = .vacant (here ++ [name]) := by
    rw [hway.locateFrom_append, locateFrom_of_none hname hnone]
    rfl
  refine ⟨_, makeFolder_of_vacant hdot hsize hvacant, htree.put hfolder hfree _, ?_, ?_⟩
  · refine Way.concat (hway.of_folders ?_) hname (node?_put_self d (by simp) _)
    intro p hp
    have hne : p ≠ here ++ [name] := by
      rintro rfl
      exact hfree hp
    rw [node?_put_of_ne d hne, hp]
  · intro below
    rw [node?_put_of_ne d (by simp), htree.node?_eq_none hfree]

/-- **Missing folders are made one below the other.** From the first of them on there is nothing in
the way. -/
theorem makeFoldersRev_of_none (htree : d.IsTree) {known : Place} (hway : d.Way [] known here)
    (hnone : d.node? (here ++ [name]) = none) {rest : Place}
    (hplain : ∀ n ∈ name :: rest, IsPlainName n) {ending : Path.Ending}
    (hdot : ending.isDot = false) {size : Nat} (hsize : size ≤ Path.sizeLimit) :
    ∃ d', d.makeFoldersRev ending size (known ++ name :: rest).reverse = (.ok (), d') ∧
      d'.LeadsToEmpty (known ++ name :: rest) (here ++ name :: rest) := by
  induction rest using List.reverseRecOn generalizing ending with
  | nil =>
    have hname : IsPlainName name := hplain name List.mem_cons_self
    obtain ⟨d', hmake, hempty⟩ := makeFolder_of_way htree hway hname hnone hdot hsize
    refine ⟨d', ?_, hempty⟩
    rw [List.reverse_append, List.reverse_singleton, List.singleton_append, makeFoldersRev,
      List.reverse_cons, List.reverse_reverse]
    simp only [hmake]
  | append_singleton front last ih =>
    have hname : IsPlainName name := hplain name List.mem_cons_self
    have hlast : IsPlainName last := hplain last (by simp)
    have hlost : d.locateFrom [] (known ++ name :: (front ++ [last])) = .lost := by
      rw [hway.locateFrom_append, locateFrom_of_none hname hnone, if_neg (by simp)]
    have hmissing := makeFolder_of_lost hdot hsize hlost
    -- the folder above is made first, and then nothing is in the way of the last one
    have hfront : ∀ n ∈ name :: front, IsPlainName n := by
      intro n hn
      apply hplain
      rw [← List.cons_append]
      exact List.mem_append_left [last] hn
    have hdot' : Path.Ending.name.isDot = false := rfl
    obtain ⟨above, habove, hempty⟩ := ih hfront hdot'
    obtain ⟨d', hmake, hempty'⟩ := makeFolder_of_way hempty.tree hempty.way hlast
      (hempty.nothing last) hdot hsize
    have hnames : known ++ name :: (front ++ [last]) = known ++ name :: front ++ [last] := by simp
    have hplace : here ++ name :: (front ++ [last]) = here ++ name :: front ++ [last] := by simp
    rw [hnames] at hmissing
    rw [hnames, hplace]
    refine ⟨d', ?_, hempty'⟩
    rw [List.reverse_append, List.reverse_singleton, List.singleton_append, makeFoldersRev,
      List.reverse_cons, List.reverse_reverse]
    simp only [hmissing, habove, hmake]

/-! ## What is left behind -/

/-- Nothing has changed but that some places which held nothing now hold a folder on the way along
the names. -/
def MakesFolders (d : Disk) (names : Place) (d' : Disk) : Prop :=
  ∀ place, d'.node? place = d.node? place ∨
    d.node? place = none ∧ d'.node? place = some .folder ∧
      ∃ front, front <+: names ∧ d'.Way [] front place

namespace MakesFolders

theorem refl (d : Disk) (names : Place) : d.MakesFolders names d :=
  fun _ => Or.inl rfl

theorem folder_stays (h : d.MakesFolders names d') {p : Place}
    (hp : d.node? p = some .folder) : d'.node? p = some .folder := by
  rcases h p with hsame | ⟨hnone, -⟩
  · rw [hsame, hp]
  · rw [hp] at hnone
    cases hnone

theorem trans {later : Disk} (h : d.MakesFolders names d') (h' : d'.MakesFolders names later) :
    d.MakesFolders names later := by
  intro place
  rcases h' place with hsame' | ⟨hnone', hfolder', hway'⟩
  · rcases h place with hsame | ⟨hnone, hfolder, front, hfront, hway⟩
    · exact Or.inl (hsame'.trans hsame)
    · -- the way to a folder that was made first is still open
      exact Or.inr ⟨hnone, hsame'.trans hfolder, front, hfront,
        hway.of_folders fun p hp => h'.folder_stays hp⟩
  · rcases h place with hsame | ⟨-, hfolder, -⟩
    · exact Or.inr ⟨hsame.symm.trans hnone', hfolder', hway'⟩
    · rw [hfolder] at hnone'
      cases hnone'

/-- Files are as they were, and there are no new ones. -/
theorem file_iff (h : d.MakesFolders names d') {bytes : ByteArray} :
    d'.node? place = some (.file bytes) ↔ d.node? place = some (.file bytes) := by
  rcases h place with hsame | ⟨hnone, hfolder, -⟩
  · rw [hsame]
  · rw [hnone, hfolder]
    exact ⟨nofun, nofun⟩

theorem mono {longer : Place} (h : d.MakesFolders names d') (hstart : names <+: longer) :
    d.MakesFolders longer d' := by
  intro place
  rcases h place with hsame | ⟨hnone, hfolder, front, hfront, hway⟩
  · exact Or.inl hsame
  · exact Or.inr ⟨hnone, hfolder, front, hfront.trans hstart, hway⟩

end MakesFolders

/-- A vacant place is one under a plain name in the folder that the names before lead to. -/
theorem way_of_vacant (h : d.locateFrom start names = .vacant place) :
    ∃ front name here, names = front ++ [name] ∧ IsPlainName name ∧ d.Way start front here ∧
      place = here ++ [name] ∧ d.node? place = none := by
  induction names generalizing start with
  | nil => cases h
  | cons first names ih =>
    rw [locateFrom] at h
    split at h
    · next hfirst =>
      obtain ⟨front, name, here, rfl, hname, hway, hplace⟩ := ih h
      exact ⟨first :: front, name, here, rfl, hname, hfirst ▸ .up hway, hplace⟩
    · next hfirst =>
      split at h
      · cases h
      · next hlong =>
        have hshort : first.utf8ByteSize ≤ Path.nameLimit := Nat.not_lt.1 hlong
        rcases hentry : d.node? (start ++ [first]) with _ | _ | bytes
        · rw [hentry] at h
          cases names with
          | nil =>
            cases h
            exact ⟨[], first, start, rfl, ⟨hfirst, hshort⟩, .here start, rfl, hentry⟩
          | cons next names => cases h
        · rw [hentry] at h
          obtain ⟨front, name, here, rfl, hname, hway, hplace⟩ := ih h
          exact ⟨first :: front, name, here, rfl, hname, .down hfirst hshort hentry hway, hplace⟩
        · rw [hentry] at h
          cases names with
          | nil => cases h
          | cons next names => cases h

theorem locateFrom_of_locate_vacant {path : Path} (h : d.locate path = .vacant place) :
    d.locateFrom [] path.names = .vacant place := by
  rw [locate] at h
  split at h
  · cases h
  · split at h
    · split at h
      · cases h
      · cases h
    · next hvacant =>
      split at h
      · cases h
      · rw [hvacant, h]
    · exact h

/-- A folder that is made takes a place that held nothing. -/
theorem makesFolders_of_makeFolder {path : Path} (h : d.makeFolder path = .ok d') :
    d.MakesFolders path.names d' := by
  have hnames : path.withoutSlash.names = path.names := by
    rw [Path.withoutSlash]
    split <;> rfl
  rw [makeFolder] at h
  split at h
  · cases h
  · next place hvacant =>
    obtain ⟨front, name, here, hfront, hname, hway, rfl, hnone⟩ :=
      way_of_vacant (locateFrom_of_locate_vacant hvacant)
    cases h
    have hother : ∀ p, p ≠ here ++ [name] →
        node? (d.put (here ++ [name]) .folder) p = d.node? p :=
      fun p hne => node?_put_of_ne d hne _
    intro p
    by_cases hp : p = here ++ [name]
    · subst hp
      refine Or.inr ⟨hnone, node?_put_self d (by simp) _, front ++ [name], ?_, ?_⟩
      · have hlast : front ++ [name] = path.names := hfront.symm.trans hnames
        exact hlast ▸ List.prefix_rfl
      · refine Way.concat (hway.of_folders ?_) hname (node?_put_self d (by simp) _)
        intro q hq
        rw [hother q (by rintro rfl; rw [hnone] at hq; cases hq), hq]
    · exact Or.inl (hother p hp)
  · cases h
  · cases h
  · cases h

/-- **Making folders makes folders only**, whether it goes through or not. -/
theorem makesFolders_makeFoldersRev (d : Disk) (ending : Path.Ending) (size : Nat)
    (reversed : Place) :
    d.MakesFolders reversed.reverse (d.makeFoldersRev ending size reversed).2 := by
  induction reversed generalizing ending with
  | nil => exact .refl d _
  | cons name above ih =>
    have hstart : above.reverse <+: (name :: above).reverse := by simp
    have habove := (ih .name).mono hstart
    rw [makeFoldersRev]
    split
    · next made hmake => exact makesFolders_of_makeFolder hmake
    · split
      · next below hbelow => rw [hbelow] at habove; exact habove
      · next below hbelow =>
        rw [hbelow] at habove
        split
        · next made hmake => exact habove.trans (makesFolders_of_makeFolder hmake)
        · split <;> exact habove
    · split <;> exact .refl d _

/-! ## Saves that fail -/

/-- A folder that stands in the way is met before anything is made. -/
theorem makeFolders_of_error {cause : DiskError} (h : d.makeFolder folder = .error cause)
    (hcause : cause ≠ .missing) : (d.makeFolders folder).2 = d := by
  rw [makeFolders]
  rcases hnames : folder.names.reverse with _ | ⟨name, above⟩
  · rfl
  · have hfolder : (⟨(name :: above).reverse, folder.ending, folder.size⟩ : Path) = folder := by
      rw [← hnames, List.reverse_reverse]
    rw [makeFoldersRev, hfolder, h]
    split
    · next hmade => cases hmade
    · next hmissing => cases hmissing; exact absurd rfl hcause
    · split <;> rfl

/-- A way to a folder for a file: known names lead to a folder that is there, and the names after
them, which may be missing, are plain. -/
structure Approach (d : Disk) (folder : Path) (file : String) (known rest here : Place) : Prop where
  names_eq : folder.names = known ++ rest
  way : d.Way [] known here
  plain : ∀ n ∈ rest, IsPlainName n
  notDot : folder.ending.isDot = false
  plainFile : IsPlainName file
  fits : (folder.child file).size ≤ Path.sizeLimit

namespace Approach

variable {known rest : Place}

theorem size_le (h : d.Approach folder file known rest here) : folder.size ≤ Path.sizeLimit :=
  Nat.le_trans (size_le_size_child folder file) h.fits

/-- **A file is saved below missing folders**, which are made first. -/
theorem writable_of_none (h : d.Approach folder file known (name :: rest) here) (htree : d.IsTree)
    (hnone : d.node? (here ++ [name]) = none) : d.Writable folder file := by
  obtain ⟨made, hmade, hempty⟩ :=
    makeFoldersRev_of_none htree h.way hnone h.plain h.notDot h.size_le
  have htakes : made.Takes folder file (here ++ name :: rest) :=
    { notUp := h.plainFile.notUp
      short := h.plainFile.short
      fits := h.fits
      way := by rw [h.names_eq]; exact hempty.way
      free := by rw [hempty.nothing]; exact nofun }
  have hfolders : d.makeFolders folder = (.ok (), made) := by
    rw [makeFolders, h.names_eq, hmade]
  have hlocate : d.locateFrom [] folder.names =
      if rest.isEmpty then .vacant (here ++ [name]) else .lost := by
    rw [h.names_eq, h.way.locateFrom_append,
      locateFrom_of_none (h.plain name List.mem_cons_self) hnone]
  have hmissing : d.contains folder = false := by
    rw [contains, locate, if_neg (Nat.not_lt.2 h.size_le), hlocate, h.notDot]
    cases rest <;> rfl
  intro text
  rw [save, hmissing, if_neg Bool.false_ne_true, hfolders]
  dsimp only
  rw [htakes.writeText_eq]

/-- The way on from the folder where it first leaves the folders that are there. -/
theorem move (h : d.Approach folder file known rest here) {front after : Place}
    (hrest : rest = front ++ after) (hway : d.Way here front (here ++ front)) :
    d.Approach folder file (known ++ front) after (here ++ front) where
  names_eq := by rw [h.names_eq, hrest, List.append_assoc]
  way := h.way.append hway
  plain := fun n hn => h.plain n (by rw [hrest]; exact List.mem_append_right front hn)
  notDot := h.notDot
  plainFile := h.plainFile
  fits := h.fits

theorem makeFolders_of_file (h : d.Approach folder file known (name :: rest) here)
    {bytes : ByteArray} (hfile : d.node? (here ++ [name]) = some (.file bytes)) :
    (d.makeFolders folder).2 = d := by
  have hslash : folder.withoutSlash = ⟨folder.names, .name, folder.size⟩ :=
    withoutSlash_of_not_isDot h.notDot folder.names folder.size
  have hlocate : d.locate folder.withoutSlash =
      if rest.isEmpty then .entry (here ++ [name]) (.file bytes) else .blocked := by
    rw [hslash, locate_of_name _ h.size_le, h.names_eq, h.way.locateFrom_append,
      locateFrom_of_file (h.plain name List.mem_cons_self) hfile]
  cases rest with
  | nil =>
    have hmake : d.makeFolder folder = .error .occupied := by
      rw [makeFolder, hlocate]
      rfl
    exact makeFolders_of_error hmake nofun
  | cons next rest =>
    have hmake : d.makeFolder folder = .error .notFolder := by
      rw [makeFolder, hlocate]
      rfl
    exact makeFolders_of_error hmake nofun

/-- On an approach, what is in the way is met before any folder is made. -/
theorem contains_or_writable_or (h : d.Approach folder file known rest here) (htree : d.IsTree) :
    d.contains folder = true ∨ d.Writable folder file ∨ (d.makeFolders folder).2 = d := by
  rcases way_or_stop h.plain here with hway | ⟨front, name, after, hrest, hway, hstop⟩
  · have hall : d.Way [] folder.names (here ++ rest) := by
      rw [h.names_eq]
      exact h.way.append hway
    exact Or.inl (contains_of_way hall h.size_le)
  · have hmoved := h.move hrest hway
    rcases hentry : d.node? (here ++ front ++ [name]) with _ | _ | bytes
    · exact Or.inr (Or.inl (hmoved.writable_of_none htree hentry))
    · exact absurd hentry hstop
    · exact Or.inr (Or.inr (hmoved.makeFolders_of_file hentry))

end Approach

/-- The folder is there, or there is an approach to it. -/
def Approachable (d : Disk) (folder : Path) (file : String) : Prop :=
  d.contains folder = true ∨ ∃ known rest here, d.Approach folder file known rest here

theorem disk_of_save_error {text : String} {cause : DiskError}
    (h : d.save folder file text = (.error cause, d')) :
    d' = d ∨ d.contains folder = false ∧ d' = (d.makeFolders folder).2 := by
  rw [save] at h
  by_cases hcontains : d.contains folder = true
  · rw [if_pos hcontains] at h
    dsimp only at h
    split at h
    · cases h
    · cases h
      exact Or.inl rfl
  · rw [if_neg hcontains] at h
    refine Or.inr ⟨Bool.eq_false_iff.2 hcontains, ?_⟩
    rcases hmade : d.makeFolders folder with ⟨_ | _, made⟩
    · rw [hmade] at h
      cases h
      rfl
    · rw [hmade] at h
      dsimp only at h
      split at h
      · cases h
      · cases h
        rfl

/-- What a save under a name in a folder leaves behind when it fails: nothing but folders on the
way, and nothing at all when the folder can be approached on a tree. -/
structure Leaves (folder : Path) (file : String) (d d' : Disk) : Prop where
  foldersOnly : d.MakesFolders folder.names d'
  nothing : d.IsTree → d.Approachable folder file → d' = d

/-- **Saves that fail change no file**, and none of the folders that are there. -/
theorem leaves_of_save {text : String} {cause : DiskError}
    (h : d.save folder file text = (.error cause, d')) : d.Leaves folder file d' := by
  rcases disk_of_save_error h with rfl | ⟨hmissing, rfl⟩
  · exact ⟨.refl _ _, fun _ _ => rfl⟩
  · refine ⟨?_, ?_⟩
    · have hmade := makesFolders_makeFoldersRev d folder.ending folder.size folder.names.reverse
      rwa [List.reverse_reverse] at hmade
    · rintro htree (hcontains | ⟨known, rest, here, happroach⟩)
      · rw [hmissing] at hcontains
        cases hcontains
      · rcases happroach.contains_or_writable_or htree with hcontains | hwritable | hsame
        · rw [hmissing] at hcontains
          cases hcontains
        · have hok := hwritable text
          rw [h] at hok
          cases hok
        · exact hsame

end PlanViewer.Disk
