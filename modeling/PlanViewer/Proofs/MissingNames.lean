import PlanViewer.Proofs.PreparedFolders

/-!
# Names that lead to nothing

When a folder is made for a file, another file can come into sight: a path that goes up again past
a missing folder leads nowhere at first, and to what stands there already once that folder has been
made. It takes such a path, though. Where a path leads down only from its first missing name on
(`Disk.Straight`), all that is made for it is new and empty, and whatever is read in its folder is
read as before (`Disk.reading_prepared`).
-/

namespace PlanViewer.Disk

variable {d d' made : Disk} {folder : Path} {file name : String}
  {here last place start names rest : Place}

/-! ## Ways and places -/

/-- Names lead to one place at most. -/
theorem Way.unique (h : d.Way start names last) (h' : d.Way start names place) : place = last := by
  have hsame := h'.locateFrom_eq.symm.trans h.locateFrom_eq
  cases hsame
  rfl

/-- Without `..`, the place is that of the names. -/
theorem Way.eq_append (h : d.Way start names last) (hdown : ".." ∉ names) :
    last = start ++ names := by
  induction h with
  | here place => rw [List.append_nil]
  | up _ _ => exact absurd List.mem_cons_self hdown
  | down _ _ _ _ ih =>
    rw [ih fun hmem => hdown (List.mem_cons_of_mem _ hmem), List.append_assoc,
      List.singleton_append]

/-! ## Trees -/

theorem IsTree.nothing_below (htree : d.IsTree) (hplace : d.node? place ≠ some .folder)
    {below : Place} (hbelow : below ≠ []) : d.node? (place ++ below) = none := by
  induction below using List.reverseRecOn with
  | nil => exact absurd rfl hbelow
  | append_singleton front last ih =>
    rw [← List.append_assoc]
    apply htree.node?_eq_none
    by_cases hfront : front = []
    · rwa [hfront, List.append_nil]
    · rw [ih hfront]
      exact nofun

/-- Along names that lead to a folder there is nothing to make. -/
theorem MakesFolders.node?_eq_of_way (h : d.MakesFolders names made) (htree : d.IsTree)
    (hway : d.Way [] names last) (place : Place) : made.node? place = d.node? place := by
  rcases h place with hsame | ⟨hnone, -, front, ⟨rest, rfl⟩, hmade⟩
  · exact hsame
  · obtain ⟨here, hfront, -⟩ := hway.split
    have hplace := Way.unique (hfront.of_folders fun p => h.folder_stays) hmade
    rw [hplace, hfront.node?_eq_folder htree rfl] at hnone
    cases hnone

/-! ## The first missing name -/

/-- The names from the first one on under which there is nothing. Nothing is missing where a file
or a name that is too long is met first. -/
def missingFrom (d : Disk) (here : Place) : Place → Place
  | [] => []
  | name :: rest =>
    if name = ".." then d.missingFrom here.dropLast rest
    else if Path.nameLimit < name.utf8ByteSize then []
    else
      match d.node? (here ++ [name]) with
      | some .folder => d.missingFrom (here ++ [name]) rest
      | some (.file _) => []
      | none => name :: rest

/-- From its first missing name on, the path leads down only. -/
def Straight (d : Disk) (path : Path) : Prop :=
  ".." ∉ d.missingFrom [] path.names

instance (d : Disk) (path : Path) : Decidable (d.Straight path) :=
  inferInstanceAs (Decidable (".." ∉ d.missingFrom [] path.names))

/-- How far names lead past folders: to the end, to a name under which there is nothing, or to one
that is too long or names a file. -/
inductive Walk (d : Disk) (start : Place) : Place → Prop
  | through {names last : Place} : d.Way start names last → Walk d start names
  | missing {known rest here : Place} {name : String} :
      d.Way start known here → IsPlainName name → d.node? (here ++ [name]) = none →
      d.missingFrom start (known ++ name :: rest) = name :: rest →
      Walk d start (known ++ name :: rest)
  | overlong {known rest here : Place} {name : String} :
      d.Way start known here → name ≠ ".." → Path.nameLimit < name.utf8ByteSize →
      Walk d start (known ++ name :: rest)
  | barred {known rest here : Place} {name : String} {bytes : ByteArray} :
      d.Way start known here → IsPlainName name →
      d.node? (here ++ [name]) = some (.file bytes) → Walk d start (known ++ name :: rest)

/-- A walk goes on after a step into a folder. -/
theorem Walk.after {next : Place} (h : d.Walk next names)
    (hway : ∀ {names last}, d.Way next names last → d.Way start (name :: names) last)
    (hmissing : ∀ names, d.missingFrom start (name :: names) = d.missingFrom next names) :
    d.Walk start (name :: names) := by
  cases h with
  | through h => exact .through (hway h)
  | @missing known rest _ _ h hname hnone hrest =>
    exact @Walk.missing d start (name :: known) rest _ _ (hway h) hname hnone
      ((hmissing _).trans hrest)
  | @overlong known rest _ _ h hup hlong =>
    exact @Walk.overlong d start (name :: known) rest _ _ (hway h) hup hlong
  | @barred known rest _ _ _ h hname hfile =>
    exact @Walk.barred d start (name :: known) rest _ _ _ (hway h) hname hfile

theorem walk (d : Disk) (start names : Place) : d.Walk start names := by
  induction names generalizing start with
  | nil => exact .through (.here start)
  | cons name names ih =>
    by_cases hup : name = ".."
    · subst hup
      refine (ih start.dropLast).after .up fun names => ?_
      rw [missingFrom, if_pos rfl]
    · by_cases hlong : Path.nameLimit < name.utf8ByteSize
      · exact @Walk.overlong d start [] names _ _ (.here start) hup hlong
      · have hname : IsPlainName name := ⟨hup, Nat.not_lt.1 hlong⟩
        rcases hentry : d.node? (start ++ [name]) with _ | _ | bytes
        · refine @Walk.missing d start [] names _ _ (.here start) hname hentry ?_
          rw [List.nil_append, missingFrom, if_neg hup, if_neg hlong, hentry]
        · refine (ih (start ++ [name])).after (.down hup hname.short hentry) fun names => ?_
          rw [missingFrom, if_neg hup, if_neg hlong, hentry]
        · exact @Walk.barred d start [] names _ _ _ (.here start) hname hentry

/-! ## Nothing comes into sight -/

theorem reading_eq_none {path : Path} (h : ∀ place e, d.locate path ≠ .entry place e) :
    d.reading path = none := by
  have hcontains : d.contains path = false := by
    unfold contains
    rcases hlocated : d.locate path with ⟨place, e⟩ | _ | _ | _ | _
    · exact absurd hlocated (h place e)
    all_goals rfl
  rw [reading, hcontains, if_neg Bool.false_ne_true]

theorem reading_child_eq_none
    (h : ∀ place e, d.locateFrom [] (folder.names ++ [file]) ≠ .entry place e) :
    d.reading (folder.child file) = none := by
  apply reading_eq_none
  by_cases hfits : (folder.child file).size ≤ Path.sizeLimit
  · rwa [locate_child hfits]
  · intro place e hentry
    rw [locate, if_pos (Nat.not_le.1 hfits)] at hentry
    cases hentry

theorem locateFrom_congr (h : ∀ p, d'.node? p = d.node? p) (start names : Place) :
    d'.locateFrom start names = d.locateFrom start names := by
  induction names generalizing start with
  | nil => rfl
  | cons name names ih =>
    unfold locateFrom
    rw [h, ih, ih]

/-- Without `..`, names lead to what stands at the place of the names. -/
theorem node?_of_locateFrom {e : Entry} (hdown : ".." ∉ names) (hne : names ≠ [])
    (h : d.locateFrom start names = .entry place e) : d.node? (start ++ names) = some e := by
  induction names generalizing start with
  | nil => exact absurd rfl hne
  | cons name names ih =>
    have hup : name ≠ ".." := fun heq => hdown (heq ▸ List.mem_cons_self)
    have hrest : ".." ∉ names := fun hmem => hdown (List.mem_cons_of_mem name hmem)
    rw [locateFrom, if_neg hup] at h
    split at h
    · cases h
    · rcases hentry : d.node? (start ++ [name]) with _ | _ | bytes
      · rw [hentry] at h
        cases names <;> cases h
      · rw [hentry] at h
        cases names with
        | nil =>
          cases h
          exact hentry
        | cons next names =>
          have hmore := ih hrest (List.cons_ne_nil _ _) h
          rwa [List.append_assoc, List.singleton_append] at hmore
      · rw [hentry] at h
        cases names with
        | nil =>
          cases h
          exact hentry
        | cons next names => cases h

/-- **Nothing comes into sight below a missing name.** What stands there afterwards has been made
along the names, and no further than they go. -/
theorem MakesFolders.locateFrom_ne_entry {known : Place}
    (h : d.MakesFolders (known ++ name :: rest) made) (htree : d.IsTree)
    (hway : d.Way [] known here) (hnone : d.node? (here ++ [name]) = none)
    (hdown : ".." ∉ name :: rest) (hup : file ≠ "..") (e : Entry) :
    made.locateFrom [] (known ++ name :: rest ++ [file]) ≠ .entry place e := by
  intro hlocate
  have hdown' : ".." ∉ name :: rest ++ [file] := by
    simpa [hup.symm] using hdown
  have hmade : made.Way [] known here := hway.of_folders fun p => h.folder_stays
  rw [List.append_assoc, hmade.locateFrom_append] at hlocate
  have hentry := node?_of_locateFrom hdown' nofun hlocate
  have hbelow : d.node? (here ++ (name :: rest ++ [file])) = none := by
    have hnothing : d.node? (here ++ [name] ++ (rest ++ [file])) = none :=
      htree.nothing_below (by rw [hnone]; exact nofun) (by simp)
    simpa using hnothing
  rcases h (here ++ (name :: rest ++ [file])) with hsame | ⟨-, -, front, hfront, hplace⟩
  · rw [hsame, hbelow] at hentry
    cases hentry
  · rcases List.prefix_or_prefix_of_prefix hfront (List.prefix_append known (name :: rest))
      with ⟨after, rfl⟩ | ⟨after, rfl⟩
    · -- a folder among the known names was there before
      obtain ⟨mid, hmid, -⟩ := hway.split
      have hsame := Way.unique (hmid.of_folders fun p => h.folder_stays) hplace
      rw [hsame, hmid.node?_eq_folder htree rfl] at hbelow
      cases hbelow
    · -- and the names after them lead down, but not as far as the file
      have hafter : after <+: name :: rest := (List.prefix_append_right_inj known).1 hfront
      obtain ⟨mid, hmid, hlast⟩ := hplace.split
      obtain rfl := hmade.unique hmid
      have heq := hlast.eq_append fun hmem => hdown (hafter.subset hmem)
      have hlength := congrArg List.length (List.append_cancel_left heq)
      have hle := hafter.length_le
      simp only [List.length_append, List.length_cons, List.length_nil] at hlength hle
      omega

/-- **Making a folder brings nothing into sight there**, where its path leads down only from the
first missing name on. -/
theorem reading_prepared (htree : d.IsTree) (hstraight : d.Straight folder) (hup : file ≠ "..") :
    (d.prepared folder).reading (folder.child file) = d.reading (folder.child file) := by
  have hmade := makesFolders_prepared d folder
  generalize d.prepared folder = made at hmade
  obtain ⟨names, ending, size⟩ := folder
  cases d.walk [] names with
  | through hway =>
    apply reading_child_congr
    exact locateFrom_congr (hmade.node?_eq_of_way htree hway) _ _
  | missing hway hname hnone hmissing =>
    rw [Straight, hmissing] at hstraight
    rw [reading_child_eq_none fun place =>
        hmade.locateFrom_ne_entry htree hway hnone hstraight hup,
      reading_child_eq_none fun place =>
        (MakesFolders.refl d _).locateFrom_ne_entry htree hway hnone hstraight hup]
  | overlong hway hname hlong =>
    apply reading_child_congr
    have hway' := hway.of_folders fun p => hmade.folder_stays
    dsimp only
    rw [List.append_assoc, hway.locateFrom_append, hway'.locateFrom_append, List.cons_append,
      locateFrom, locateFrom, if_neg hname, if_neg hname, if_pos hlong, if_pos hlong]
  | barred hway hname hfile =>
    apply reading_child_congr
    have hway' := hway.of_folders fun p => hmade.folder_stays
    dsimp only
    rw [List.append_assoc, hway.locateFrom_append, hway'.locateFrom_append, List.cons_append,
      locateFrom_of_file hname hfile, locateFrom_of_file hname (hmade.file_iff.2 hfile)]

end PlanViewer.Disk
