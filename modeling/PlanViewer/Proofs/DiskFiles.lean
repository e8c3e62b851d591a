import PlanViewer.Disk

/-!
# Files that are written and read back

Whether a file can be written is decided by the way to it: the path of its folder has to lead to a
folder, and no folder may stand in its own place. Writing a file leaves every folder where it is, so
the way stays open: after one file has been saved, the text is read back, and saving under that name
goes through from then on.

`Disk.Takes` states the open way, `Disk.Writable` that a save goes through, which may mean that
folders are made on the way.
-/

namespace PlanViewer.Disk

variable {d : Disk} {folder : Path} {name : String} {here place : Place}

/-! ## Entries -/

theorem node?_put_self (d : Disk) (hplace : place ≠ []) (e : Entry) :
    node? (d.put place e) place = some e := by
  rw [node?, if_neg hplace, put, List.lookup_cons_self]

theorem node?_put_of_ne (d : Disk) {other : Place} (hne : other ≠ place) (e : Entry) :
    node? (d.put place e) other = d.node? other := by
  have hlookup : ∀ entries : List (Place × Entry),
      (entries.filter fun x => decide (x.1 ≠ place)).lookup other = entries.lookup other := by
    intro entries
    induction entries with
    | nil => rfl
    | cons x entries ih =>
      obtain ⟨at', e'⟩ := x
      by_cases hat : at' = place
      · subst hat
        have hfalse : (other == at') = false := beq_false_of_ne hne
        rw [List.filter_cons_of_neg (by simp), ih, List.lookup_cons, hfalse]
      · rw [List.filter_cons_of_pos (by simpa using hat), List.lookup_cons, List.lookup_cons, ih]
  rw [node?, node?]
  by_cases hother : other = []
  · rw [if_pos hother, if_pos hother]
  · have hfalse : (other == place) = false := beq_false_of_ne hne
    rw [if_neg hother, if_neg hother, put, List.lookup_cons, hfalse]
    exact hlookup d.entries

/-! ## The way to a folder -/

/-- The names lead from one folder to another, past folders only. -/
inductive Way (d : Disk) : Place → Place → Place → Prop
  | here (place : Place) : Way d place [] place
  | up {start names last : Place} :
      Way d start.dropLast names last → Way d start (".." :: names) last
  | down {start names last : Place} {name : String} :
      name ≠ ".." → name.utf8ByteSize ≤ Path.nameLimit →
      d.node? (start ++ [name]) = some .folder → Way d (start ++ [name]) names last →
      Way d start (name :: names) last

/-- Following names beyond a way to a folder goes on from that folder. -/
theorem Way.locateFrom_append {start names : Place} (h : d.Way start names here) (rest : Place) :
    d.locateFrom start (names ++ rest) = d.locateFrom here rest := by
  induction h with
  | here place => rfl
  | up _ ih => rw [List.cons_append, locateFrom, if_pos rfl, ih]
  | down hup hshort hentry _ ih =>
    rw [List.cons_append, locateFrom, if_neg hup, if_neg (Nat.not_lt.2 hshort), hentry]
    exact ih

/-- A way stays open on a disk that has all the folders. -/
theorem Way.of_folders {d' : Disk}
    (hfolders : ∀ p, d.node? p = some .folder → d'.node? p = some .folder)
    {start names : Place} (h : d.Way start names here) : d'.Way start names here := by
  induction h with
  | here place => exact .here place
  | up _ ih => exact .up ih
  | down hup hshort hentry _ ih => exact .down hup hshort (hfolders _ hentry) ih

/-- The place that a file can be written to. -/
def Located.spot? : Located → Option Place
  | .entry place (.file _) => some place
  | .vacant place => some place
  | _ => none

/-- The place of a file under a name is in the folder that the names before lead to. -/
theorem way_of_spot? {start names : Place} (hup : name ≠ "..")
    (h : (d.locateFrom start (names ++ [name])).spot? = some place) :
    ∃ here, d.Way start names here ∧ place = here ++ [name] ∧
      name.utf8ByteSize ≤ Path.nameLimit ∧ d.node? place ≠ some .folder := by
  induction names generalizing start with
  | nil =>
    rw [List.nil_append, locateFrom, if_neg hup] at h
    split at h
    · cases h
    · next hlong =>
      refine ⟨start, .here start, ?_⟩
      rcases hentry : d.node? (start ++ [name]) with _ | _ | bytes
      · rw [hentry] at h
        cases h
        exact ⟨rfl, Nat.not_lt.1 hlong, by rw [hentry]; exact nofun⟩
      · rw [hentry] at h
        cases h
      · rw [hentry] at h
        cases h
        exact ⟨rfl, Nat.not_lt.1 hlong, by rw [hentry]; exact nofun⟩
  | cons first names ih =>
    -- more names follow, so a file or nothing here ends the walk without a place
    have hmore : (names ++ [name]).isEmpty = false := by simp
    rw [List.cons_append, locateFrom] at h
    split at h
    · next hfirst =>
      obtain ⟨here, hway, hrest⟩ := ih h
      exact ⟨here, hfirst ▸ .up hway, hrest⟩
    · next hfirst =>
      split at h
      · cases h
      · next hlong =>
        rcases hentry : d.node? (start ++ [first]) with _ | _ | bytes
        · rw [hentry, hmore] at h
          cases h
        · rw [hentry] at h
          obtain ⟨here, hway, hrest⟩ := ih h
          exact ⟨here, .down hfirst (Nat.not_lt.1 hlong) hentry hway, hrest⟩
        · rw [hentry, hmore] at h
          cases h

/-! ## Writing and reading back -/

/-- The path of the folder leads to the folder at a place, and a file can be written there under
the name. -/
structure Takes (d : Disk) (folder : Path) (name : String) (here : Place) : Prop where
  notUp : name ≠ ".."
  short : name.utf8ByteSize ≤ Path.nameLimit
  fits : (folder.child name).size ≤ Path.sizeLimit
  way : d.Way [] folder.names here
  free : d.node? (here ++ [name]) ≠ some .folder

theorem locate_of_name (names : Place) {size : Nat} (hsize : size ≤ Path.sizeLimit) :
    d.locate ⟨names, .name, size⟩ = d.locateFrom [] names := by
  rw [locate, if_neg (Nat.not_lt.2 hsize)]
  split
  · next h => rw [h, if_pos rfl]
  · next h => rw [h]; rfl
  · rfl

theorem locate_child (hfits : (folder.child name).size ≤ Path.sizeLimit) :
    d.locate (folder.child name) = d.locateFrom [] (folder.names ++ [name]) :=
  locate_of_name (folder.names ++ [name]) hfits

theorem size_le_size_child (folder : Path) (name : String) :
    folder.size ≤ (folder.child name).size := by
  rw [Path.child]
  exact Nat.le_trans (Nat.le_add_right _ _) (Nat.le_add_right _ _)

theorem contains_of_way (hway : d.Way [] folder.names here)
    (hsize : folder.size ≤ Path.sizeLimit) : d.contains folder = true := by
  have hfolder : d.locateFrom [] folder.names = .entry here .folder := by
    have hend := hway.locateFrom_append []
    rwa [List.append_nil] at hend
  rw [contains, locate, if_neg (Nat.not_lt.2 hsize), hfolder]

theorem writeText_eq_ok_iff {path : Path} {text : String} {d' : Disk} :
    d.writeText path text = .ok d' ↔
      ∃ place, (d.locate path).spot? = some place ∧ d' = d.put place (.file text.toUTF8) := by
  rw [writeText]
  rcases d.locate path with ⟨place, _ | bytes⟩ | place | _ | _ | _ <;>
    simp [Located.spot?, eq_comm]

/-- What was written to can be written to again, and the way to it is open. -/
theorem takes_of_writeText {text : String} {d' : Disk} (hup : name ≠ "..")
    (h : d.writeText (folder.child name) text = .ok d') :
    ∃ here, d.Takes folder name here ∧ d' = d.put (here ++ [name]) (.file text.toUTF8) := by
  obtain ⟨place, hspot, hd'⟩ := writeText_eq_ok_iff.1 h
  by_cases hfits : (folder.child name).size ≤ Path.sizeLimit
  · rw [locate_child hfits] at hspot
    obtain ⟨here, hway, hplace, hshort, hfree⟩ := way_of_spot? hup hspot
    subst hplace
    exact ⟨here, ⟨hup, hshort, hfits, hway, hfree⟩, hd'⟩
  · rw [locate, if_pos (Nat.not_le.1 hfits)] at hspot
    cases hspot

namespace Takes

theorem locate_eq (h : d.Takes folder name here) :
    d.locate (folder.child name) =
      match d.node? (here ++ [name]) with
      | some e => .entry (here ++ [name]) e
      | none => .vacant (here ++ [name]) := by
  rw [locate_child h.fits, h.way.locateFrom_append, locateFrom, if_neg h.notUp,
    if_neg (Nat.not_lt.2 h.short)]
  rcases d.node? (here ++ [name]) with _ | _ | bytes <;> rfl

theorem writeText_eq (h : d.Takes folder name here) (text : String) :
    d.writeText (folder.child name) text =
      .ok (d.put (here ++ [name]) (.file text.toUTF8)) := by
  refine writeText_eq_ok_iff.2 ⟨here ++ [name], ?_, rfl⟩
  rw [h.locate_eq]
  rcases hentry : d.node? (here ++ [name]) with _ | _ | bytes
  · rfl
  · exact absurd hentry h.free
  · rfl

theorem contains_folder (h : d.Takes folder name here) : d.contains folder = true :=
  contains_of_way h.way (Nat.le_trans (size_le_size_child folder name) h.fits)

/-- Saving under a name that is taken changes the file under that name and nothing else. -/
theorem save_eq (h : d.Takes folder name here) (text : String) :
    d.save folder name text = (.ok (), d.put (here ++ [name]) (.file text.toUTF8)) := by
  rw [save, if_pos h.contains_folder]
  dsimp only
  rw [h.writeText_eq]

/-- The way is as open after a file has been written as before. -/
theorem put (h : d.Takes folder name here) (bytes : ByteArray) :
    (d.put (here ++ [name]) (.file bytes)).Takes folder name here where
  notUp := h.notUp
  short := h.short
  fits := h.fits
  way := by
    -- no folder stood where the file goes, so all folders are still there
    refine h.way.of_folders fun p hp => ?_
    have hne : p ≠ here ++ [name] := by
      rintro rfl
      exact h.free hp
    rw [node?_put_of_ne d hne, hp]
  free := by
    rw [node?_put_self d (by simp)]
    exact nofun

theorem readText_put (h : d.Takes folder name here) (text : String) :
    (d.put (here ++ [name]) (.file text.toUTF8)).readText (folder.child name) = .ok text := by
  have hutf8 : String.fromUTF8? text.toUTF8 = some text := by
    simp only [String.fromUTF8?, String.toUTF8_eq_toByteArray, dif_pos text.isValidUTF8]
    rfl
  rw [readText, (h.put _).locate_eq, node?_put_self d (by simp)]
  dsimp only
  rw [hutf8]

theorem contains_put (h : d.Takes folder name here) (bytes : ByteArray) :
    (d.put (here ++ [name]) (.file bytes)).contains (folder.child name) = true := by
  rw [contains, (h.put _).locate_eq, node?_put_self d (by simp)]

end Takes

/-! ## Saving -/

/-- Files can be saved in a folder under a name, whatever their text. -/
def Writable (d : Disk) (folder : Path) (name : String) : Prop :=
  ∀ text, (d.save folder name text).1 = .ok ()

theorem Takes.writable (h : d.Takes folder name here) : d.Writable folder name := by
  intro text
  rw [h.save_eq]

/-- A save that goes through leaves the file on a disk that takes it, and any other text would have
been saved in the same place. -/
theorem takes_of_save {text : String} (hup : name ≠ "..")
    (h : (d.save folder name text).1 = .ok ()) :
    ∃ (made : Disk) (here : Place), made.Takes folder name here ∧
      ∀ other, d.save folder name other =
        (.ok (), made.put (here ++ [name]) (.file other.toUTF8)) := by
  rw [save] at h
  -- folders may have been made first; that the write went through is what shows the way
  rcases hready : (if d.contains folder then (Except.ok (), d) else d.makeFolders folder)
    with ⟨_ | _, made⟩
  · rw [hready] at h
    cases h
  · rw [hready] at h
    dsimp only at h
    rcases hwrite : made.writeText (folder.child name) text with _ | d'
    · rw [hwrite] at h
      cases h
    · obtain ⟨here, htakes, -⟩ := takes_of_writeText hup hwrite
      refine ⟨made, here, htakes, fun other => ?_⟩
      rw [save, hready]
      dsimp only
      rw [htakes.writeText_eq]

/-- One text is enough to tell that files can be saved. -/
theorem writable_of_save {text : String} (hup : name ≠ "..")
    (h : (d.save folder name text).1 = .ok ()) : d.Writable folder name := by
  obtain ⟨made, here, -, hsave⟩ := takes_of_save hup h
  intro other
  rw [hsave other]

/-- **A saved text is read back**, and the next one can be saved too. -/
theorem Writable.save (h : d.Writable folder name) (hup : name ≠ "..") (text : String) :
    ∃ d', d.save folder name text = (.ok (), d') ∧ d'.contains (folder.child name) = true ∧
      d'.readText (folder.child name) = .ok text ∧ d'.Writable folder name := by
  obtain ⟨made, here, htakes, hsave⟩ := takes_of_save hup (h text)
  exact ⟨_, hsave text, htakes.contains_put _, htakes.readText_put text, (htakes.put _).writable⟩

end PlanViewer.Disk
