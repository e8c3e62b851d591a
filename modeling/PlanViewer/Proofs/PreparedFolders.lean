import PlanViewer.Proofs.MakingFolders

/-!
# Folders that are made once

Before a file is saved its folder is made, unless it is there. Making it again changes nothing more,
whether it went through or not: what was in the way of the first attempt is in the way of the second
one (`Disk.prepared_prepared`). So on all disks that come about by saving into one folder, from the
first attempt on, nothing but files of that folder changes; and what is read under one name there
changes only when a file is saved under that name.
-/

namespace PlanViewer.Disk

variable {d d' made : Disk} {folder : Path} {file name : String} {ending : Path.Ending} {size : Nat}
  {here last place start names front rest : Place}

/-! ## Ways and where they lead -/

theorem Way.split (h : d.Way start (front ++ rest) last) :
    ∃ here, d.Way start front here ∧ d.Way here rest last := by
  induction front generalizing start with
  | nil => exact ⟨start, .here start, h⟩
  | cons name front ih =>
    cases h with
    | up hrest =>
      obtain ⟨here, hfront, hrest⟩ := ih hrest
      exact ⟨here, .up hfront, hrest⟩
    | down hup hshort hentry hrest =>
      obtain ⟨here, hfront, hrest⟩ := ih hrest
      exact ⟨here, .down hup hshort hentry hfront, hrest⟩

theorem Way.locateFrom_eq (h : d.Way start names last) :
    d.locateFrom start names = .entry last .folder := by
  have hend := h.locateFrom_append []
  rwa [List.append_nil] at hend

theorem way_of_locateFrom (h : d.locateFrom start names = .entry last .folder) :
    d.Way start names last := by
  induction names generalizing start with
  | nil =>
    cases h
    exact .here _
  | cons name names ih =>
    rw [locateFrom] at h
    split at h
    · next hup => exact hup ▸ .up (ih h)
    · next hup =>
      split at h
      · cases h
      · next hlong =>
        rcases hentry : d.node? (start ++ [name]) with _ | _ | bytes
        · rw [hentry] at h
          cases names <;> cases h
        · rw [hentry] at h
          exact .down hup (Nat.not_lt.1 hlong) hentry (ih h)
        · rw [hentry] at h
          cases names <;> cases h

theorem locateFrom_of_locate_folder {path : Path} (h : d.locate path = .entry place .folder) :
    path.size ≤ Path.sizeLimit ∧ d.locateFrom [] path.names = .entry place .folder := by
  rw [locate] at h
  split at h
  · cases h
  · next hsize =>
    refine ⟨Nat.not_lt.1 hsize, ?_⟩
    split at h
    · split at h <;> cases h
    · split at h <;> cases h
    · exact h

/-- A path leads to a folder when it is not too long and its names lead to one. -/
theorem isFolder_iff {path : Path} :
    d.isFolder path = true ↔ path.size ≤ Path.sizeLimit ∧ ∃ place, d.Way [] path.names place := by
  constructor
  · intro h
    rw [isFolder] at h
    split at h
    · next place hlocate =>
      obtain ⟨hsize, hnames⟩ := locateFrom_of_locate_folder hlocate
      exact ⟨hsize, place, way_of_locateFrom hnames⟩
    · cases h
  · rintro ⟨hsize, place, hway⟩
    rw [isFolder, locate, if_neg (Nat.not_lt.2 hsize), hway.locateFrom_eq]

/-! ## Making folders again -/

theorem names_withoutSlash (path : Path) : path.withoutSlash.names = path.names := by
  rw [Path.withoutSlash]
  split <;> rfl

theorem size_withoutSlash (path : Path) : path.withoutSlash.size = path.size := by
  rw [Path.withoutSlash]
  split <;> rfl

/-- A folder is made under a plain name in a folder. -/
theorem makeFolder_cases {path : Path} (h : d.makeFolder path = .ok made) :
    path.size ≤ Path.sizeLimit ∧
      ∃ front name here, path.names = front ++ [name] ∧ IsPlainName name ∧ d.Way [] front here ∧
        d.node? (here ++ [name]) = none ∧ made = d.put (here ++ [name]) .folder := by
  rw [makeFolder] at h
  split at h
  · cases h
  · next place hvacant =>
    cases h
    obtain ⟨front, name, here, hnames, hname, hway, rfl, hnone⟩ :=
      way_of_vacant (locateFrom_of_locate_vacant hvacant)
    rw [names_withoutSlash] at hnames
    refine ⟨?_, front, name, here, hnames, hname, hway, hnone, rfl⟩
    rw [locate] at hvacant
    split at hvacant
    · cases hvacant
    · next hsize =>
      rw [size_withoutSlash] at hsize
      exact Nat.not_lt.1 hsize
  · cases h
  · cases h
  · cases h

/-- A folder that has been made is there. -/
theorem isFolder_of_makeFolder {path : Path} (h : d.makeFolder path = .ok made) :
    made.isFolder path = true := by
  obtain ⟨hsize, front, name, here, hnames, hname, hway, hnone, rfl⟩ := makeFolder_cases h
  refine isFolder_iff.2 ⟨hsize, here ++ [name], ?_⟩
  rw [hnames]
  refine Way.concat (hway.of_folders ?_) hname (node?_put_self d (by simp) _)
  intro p hp
  have hne : p ≠ here ++ [name] := by
    rintro rfl
    rw [hnone] at hp
    cases hp
  rw [node?_put_of_ne d hne, hp]

theorem makeFolder_of_isFolder {path : Path} (h : d.isFolder path = true) :
    d.makeFolder path = .error .occupied := by
  obtain ⟨hsize, place, hway⟩ := isFolder_iff.1 h
  rw [makeFolder, locate, size_withoutSlash, if_neg (Nat.not_lt.2 hsize), names_withoutSlash,
    hway.locateFrom_eq]

theorem makeFoldersRev_of_isFolder {reversed : Place}
    (h : d.isFolder ⟨reversed.reverse, ending, size⟩ = true) :
    d.makeFoldersRev ending size reversed = (.ok (), d) := by
  cases reversed with
  | nil => rfl
  | cons name above =>
    rw [makeFoldersRev, makeFolder_of_isFolder h]
    dsimp only
    rw [if_pos h]

/-- Where the folders above stay as they are and the last one cannot be made, nothing changes. -/
theorem makeFoldersRev_of_not_made {above : Place}
    (habove : (d.makeFoldersRev .name size above).2 = d)
    (hmake : ∀ made, d.makeFolder ⟨(name :: above).reverse, ending, size⟩ ≠ .ok made) :
    (d.makeFoldersRev ending size (name :: above)).2 = d := by
  rw [makeFoldersRev]
  split
  · next made hmade => exact absurd hmade (hmake made)
  · next hmissing =>
    split
    · next below hbelow =>
      rw [hbelow] at habove
      exact habove
    · next below hbelow =>
      rw [hbelow] at habove
      obtain rfl : below = d := habove
      rw [hmissing]
      dsimp only
      split <;> rfl
  · split <;> rfl

theorem isFolder_above {above : Place}
    (h : d.isFolder ⟨(name :: above).reverse, ending, size⟩ = true) :
    d.isFolder ⟨above.reverse, .name, size⟩ = true := by
  obtain ⟨hsize, place, hway⟩ := isFolder_iff.1 h
  rw [List.reverse_cons] at hway
  obtain ⟨here, habove, -⟩ := hway.split
  exact isFolder_iff.2 ⟨hsize, here, habove⟩

theorem isFolder_above_of_makeFolder {above : Place}
    (h : d.makeFolder ⟨(name :: above).reverse, ending, size⟩ = .ok made) :
    d.isFolder ⟨above.reverse, .name, size⟩ = true := by
  obtain ⟨hsize, front, last, here, hnames, -, hway, -⟩ := makeFolder_cases h
  dsimp only at hnames
  rw [List.reverse_cons] at hnames
  rw [← List.append_inj_left' hnames rfl] at hway
  exact isFolder_iff.2 ⟨hsize, here, hway⟩

/-- **Making folders again changes nothing.** And where they could not be made, they are not
there. -/
theorem makeFoldersRev_again {reversed : Place} {result : Except DiskError Unit}
    (h : d.makeFoldersRev ending size reversed = (result, made)) :
    (made.makeFoldersRev ending size reversed).2 = made ∧
      (result ≠ .ok () → made.isFolder ⟨reversed.reverse, ending, size⟩ ≠ true) := by
  -- on the names from the last one up, as the folders are tried
  induction reversed generalizing ending result made with
  | nil =>
    cases h
    exact ⟨rfl, fun hresult => absurd rfl hresult⟩
  | cons name above ih =>
    have hthere : ∀ {d : Disk}, d.isFolder ⟨(name :: above).reverse, ending, size⟩ = true →
        (d.makeFoldersRev ending size (name :: above)).2 = d := by
      intro d hfolder
      rw [makeFoldersRev_of_isFolder hfolder]
    have hrun := h
    rw [makeFoldersRev] at h
    split at h
    · next folder hmake =>
      cases h
      exact ⟨hthere (isFolder_of_makeFolder hmake), fun hresult => absurd rfl hresult⟩
    · split at h
      · next cause below hbelow =>
        -- the folder above could not be made, so it is not there when the last one is tried again
        cases h
        obtain ⟨hagain, hgone⟩ := ih hbelow
        have hfailed : Except.error cause ≠ .ok () := by simp
        refine ⟨makeFoldersRev_of_not_made hagain fun made hmade => ?_, fun _ hfolder => ?_⟩
        · exact hgone hfailed (isFolder_above_of_makeFolder hmade)
        · exact hgone hfailed (isFolder_above hfolder)
      · next below hbelow =>
        split at h
        · next folder hmake =>
          cases h
          exact ⟨hthere (isFolder_of_makeFolder hmake), fun hresult => absurd rfl hresult⟩
        · next cause hmake =>
          split at h
          · next hfolder =>
            cases h
            exact ⟨hthere hfolder, fun hresult => absurd rfl hresult⟩
          · next hfolder =>
            cases h
            refine ⟨makeFoldersRev_of_not_made (ih hbelow).1 fun made hmade => ?_, fun _ => hfolder⟩
            rw [hmake] at hmade
            cases hmade
    · split at h
      · next hfolder =>
        cases h
        exact ⟨hthere hfolder, fun hresult => absurd rfl hresult⟩
      · next hfolder =>
        cases h
        exact ⟨congrArg Prod.snd hrun, fun _ => hfolder⟩

/-! ## The folder before a file is saved -/

/-- The disk on which the folder has been made, as far as it could be, unless it was there. -/
def prepared (d : Disk) (folder : Path) : Disk :=
  if d.contains folder then d else (d.makeFolders folder).2

theorem prepared_of_contains (h : d.contains folder = true) : d.prepared folder = d := by
  rw [prepared, if_pos h]

theorem makesFolders_prepared (d : Disk) (folder : Path) :
    d.MakesFolders folder.names (d.prepared folder) := by
  rw [prepared]
  split
  · exact .refl d _
  · have hmade := makesFolders_makeFoldersRev d folder.ending folder.size folder.names.reverse
    rwa [List.reverse_reverse] at hmade

/-- **A folder is prepared once.** -/
theorem prepared_prepared (d : Disk) (folder : Path) :
    (d.prepared folder).prepared folder = d.prepared folder := by
  by_cases hcontains : d.contains folder = true
  · rw [prepared_of_contains hcontains, prepared_of_contains hcontains]
  · have hprepared : d.prepared folder = (d.makeFolders folder).2 := by
      rw [prepared, if_neg hcontains]
    have hagain : ((d.prepared folder).makeFolders folder).2 = d.prepared folder := by
      rw [hprepared]
      exact (makeFoldersRev_again rfl).1
    rw [prepared]
    split
    · rfl
    · exact hagain

/-- **What a save can do.** The folder is prepared; then the save fails, or the file is written on a
disk that takes it. -/
theorem save_cases (hup : name ≠ "..") (d : Disk) (folder : Path) (text : String) :
    (∃ cause, d.save folder name text = (.error cause, d.prepared folder)) ∨
      ∃ here, (d.prepared folder).Takes folder name here ∧
        d.save folder name text =
          (.ok (), (d.prepared folder).put (here ++ [name]) (.file text.toUTF8)) := by
  have hprepared : (if d.contains folder then (Except.ok (), d) else d.makeFolders folder).2 =
      d.prepared folder := by
    rw [prepared]
    split <;> rfl
  rcases hready : (if d.contains folder then (Except.ok (), d) else d.makeFolders folder)
    with ⟨cause | _, made⟩
  · rw [hready] at hprepared
    refine Or.inl ⟨cause, ?_⟩
    rw [save, hready, ← hprepared]
  · rw [hready] at hprepared
    rw [save, hready, ← hprepared]
    dsimp only
    rcases hwrite : made.writeText (folder.child name) text with cause | d'
    · exact Or.inl ⟨cause, rfl⟩
    · obtain ⟨here, htakes, rfl⟩ := takes_of_writeText hup hwrite
      exact Or.inr ⟨here, htakes, rfl⟩

theorem prepared_save (hup : name ≠ "..") (d : Disk) (folder : Path) (text : String) :
    (d.save folder name text).2.prepared folder = (d.save folder name text).2 := by
  rcases save_cases hup d folder text with ⟨cause, hsave⟩ | ⟨here, htakes, hsave⟩
  · rw [hsave]
    exact prepared_prepared d folder
  · rw [hsave]
    exact prepared_of_contains (htakes.put _).contains_folder

/-! ## What is read at a path -/

/-- What comes of reading the file that a path leads to, if it leads to anything. -/
def reading (d : Disk) (path : Path) : Option (Except DiskError String) :=
  if d.contains path then some (d.readText path) else none

theorem readText_of_reading {path : Path} {result : Except DiskError String}
    (h : d.reading path = some result) : d.contains path = true ∧ d.readText path = result := by
  rw [reading] at h
  split at h
  · next hcontains => exact ⟨hcontains, Option.some.inj h⟩
  · cases h

theorem reading_congr {path : Path} (h : d'.locate path = d.locate path) :
    d'.reading path = d.reading path := by
  unfold reading contains readText
  rw [h]

theorem reading_child_congr
    (h : d'.locateFrom [] (folder.names ++ [file]) = d.locateFrom [] (folder.names ++ [file])) :
    d'.reading (folder.child file) = d.reading (folder.child file) := by
  apply reading_congr
  by_cases hfits : (folder.child file).size ≤ Path.sizeLimit
  · rw [locate_child hfits, locate_child hfits, h]
  · rw [locate, locate, if_pos (Nat.not_le.1 hfits), if_pos (Nat.not_le.1 hfits)]

theorem Takes.reading_put (h : d.Takes folder name here) (hne : file ≠ name) (bytes : ByteArray) :
    (d.put (here ++ [name]) (.file bytes)).reading (folder.child file) =
      d.reading (folder.child file) := by
  apply reading_child_congr
  have hother : here ++ [file] ≠ here ++ [name] := by simpa using hne
  rw [h.way.locateFrom_append, (h.put bytes).way.locateFrom_append]
  unfold locateFrom
  rw [node?_put_of_ne d hother]
  rfl

/-- **What is read under one name is not changed by saving under another**, beyond what comes into
sight when the folder is prepared. -/
theorem reading_save (hup : name ≠ "..") (hne : file ≠ name) (d : Disk) (folder : Path)
    (text : String) :
    (d.save folder name text).2.reading (folder.child file) =
      (d.prepared folder).reading (folder.child file) := by
  rcases save_cases hup d folder text with ⟨cause, hsave⟩ | ⟨here, htakes, hsave⟩
  · rw [hsave]
  · rw [hsave]
    exact htakes.reading_put hne _

end PlanViewer.Disk
