import PlanViewer.Path

/-!
# The disk

Folders and files, as a value. Every place holds nothing, a folder, or a file with its bytes. A
path is followed name by name; it ends in a file below which nothing can be, or where a name is
missing or too long. A path that ends in a slash or in `.` leads to nothing but a folder.
-/

namespace PlanViewer

/-- What stands at a place. -/
inductive Entry where
  | folder
  | file (bytes : ByteArray)

/-- Files are told apart by their bytes. -/
instance : DecidableEq Entry
  | .folder, .folder => isTrue rfl
  | .folder, .file _ => isFalse nofun
  | .file _, .folder => isFalse nofun
  | .file ⟨a⟩, .file ⟨b⟩ =>
    if h : a = b then isTrue (by rw [h])
    else isFalse fun same => h (by injection same with same; injection same)

/-- Why the disk refuses something. -/
inductive DiskError where
  | isFolder
  | notFolder
  | missing
  | occupied
  | nameTooLong
  | notText
  deriving DecidableEq, Repr

/-- The wording of a refusal. -/
def DiskError.message : DiskError → String
  | .isFolder => "Is a directory (os error 21)"
  | .notFolder => "Not a directory (os error 20)"
  | .missing => "No such file or directory (os error 2)"
  | .occupied => "File exists (os error 17)"
  | .nameTooLong => "File name too long (os error 36)"
  | .notText => "stream did not contain valid UTF-8"

/-- Places and what stands there. The top folder is always there. -/
structure Disk where
  entries : List (Place × Entry)
  deriving DecidableEq

namespace Disk

/-- A disk with the top folder only. -/
def empty : Disk := ⟨[]⟩

/-- What stands at a place. -/
def node? (d : Disk) (place : Place) : Option Entry :=
  if place = [] then some .folder else d.entries.lookup place

/-- Puts something at a place, instead of what stands there. -/
def put (d : Disk) (place : Place) (e : Entry) : Disk :=
  ⟨(place, e) :: d.entries.filter fun x => decide (x.1 ≠ place)⟩

/-- Where a path leads. -/
inductive Located where
  /-- To something. -/
  | entry (place : Place) (e : Entry)
  /-- To nothing, in a folder that is there. -/
  | vacant (place : Place)
  /-- Nowhere, since a folder on the way is missing. -/
  | lost
  /-- Nowhere, since a file stands on the way. -/
  | blocked
  /-- Nowhere, since a name or the path itself is too long. -/
  | overlong
  deriving DecidableEq

/-- Follows names from a folder. -/
def locateFrom (d : Disk) (here : Place) : Place → Located
  | [] => .entry here .folder
  | name :: rest =>
    if name = ".." then d.locateFrom here.dropLast rest
    else if Path.nameLimit < name.utf8ByteSize then .overlong
    else
      match d.node? (here ++ [name]) with
      | some .folder => d.locateFrom (here ++ [name]) rest
      | some (.file bytes) =>
        if rest.isEmpty then .entry (here ++ [name]) (.file bytes) else .blocked
      | none => if rest.isEmpty then .vacant (here ++ [name]) else .lost

/-- Follows a path. After a name that leads to a file nothing can stand, not even a slash; and `.`
cannot stand after a name that leads to nothing. -/
def locate (d : Disk) (path : Path) : Located :=
  if Path.sizeLimit < path.size then .overlong
  else
    match d.locateFrom [] path.names with
    | .entry place (.file bytes) =>
      if path.ending = .name then .entry place (.file bytes) else .blocked
    | .vacant place => if path.ending.isDot then .lost else .vacant place
    | located => located

/-- Whether a path leads to something. -/
def contains (d : Disk) (path : Path) : Bool :=
  match d.locate path with
  | .entry _ _ => true
  | _ => false

/-- Whether a path leads to a folder. -/
def isFolder (d : Disk) (path : Path) : Bool :=
  match d.locate path with
  | .entry _ .folder => true
  | _ => false

/-- The text of the file that a path leads to. -/
def readText (d : Disk) (path : Path) : Except DiskError String :=
  match d.locate path with
  | .entry _ (.file bytes) =>
    match String.fromUTF8? bytes with
    | some text => .ok text
    | none => .error .notText
  | .entry _ .folder => .error .isFolder
  | .blocked => .error .notFolder
  | .overlong => .error .nameTooLong
  | .vacant _ | .lost => .error .missing

/-- Writes a file, instead of one that is there. The folder has to be there. -/
def writeText (d : Disk) (path : Path) (text : String) : Except DiskError Disk :=
  match d.locate path with
  | .entry place (.file _) => .ok (d.put place (.file text.toUTF8))
  | .vacant place => .ok (d.put place (.file text.toUTF8))
  | .entry _ .folder => .error .isFolder
  | .blocked => .error .notFolder
  | .overlong => .error .nameTooLong
  | .lost => .error .missing

/-- Makes a folder in a folder that is there. A slash at the end makes no difference. -/
def makeFolder (d : Disk) (path : Path) : Except DiskError Disk :=
  match d.locate path.withoutSlash with
  | .entry _ _ => .error .occupied
  | .vacant place => .ok (d.put place .folder)
  | .blocked => .error .notFolder
  | .overlong => .error .nameTooLong
  | .lost => .error .missing

/-- Makes a folder and the missing folders on the way to it, given the names in reverse. The path
of a folder on the way is no longer than the whole. When it fails, folders that have been made
stay. -/
def makeFoldersRev (d : Disk) (ending : Path.Ending) (size : Nat) :
    (reversed : Place) → Except DiskError Unit × Disk
  | [] => (.ok (), d)
  | name :: above =>
    let path : Path := ⟨(name :: above).reverse, ending, size⟩
    match d.makeFolder path with
    | .ok made => (.ok (), made)
    | .error .missing =>
      match d.makeFoldersRev .name size above with
      | (.error e, below) => (.error e, below)
      | (.ok (), below) =>
        match below.makeFolder path with
        | .ok made => (.ok (), made)
        | .error e => if below.isFolder path then (.ok (), below) else (.error e, below)
    | .error e => if d.isFolder path then (.ok (), d) else (.error e, d)

/-- Makes a folder and the missing folders on the way to it. -/
def makeFolders (d : Disk) (path : Path) : Except DiskError Unit × Disk :=
  d.makeFoldersRev path.ending path.size path.names.reverse

/-- Writes a file into a folder, which is made first if nothing is there. When it fails, folders
that have been made stay. -/
def save (d : Disk) (folder : Path) (name text : String) : Except DiskError Unit × Disk :=
  let (made, d) := if d.contains folder then (.ok (), d) else d.makeFolders folder
  match made with
  | .error e => (.error e, d)
  | .ok () =>
    match d.writeText (folder.child name) text with
    | .ok d => (.ok (), d)
    | .error e => (.error e, d)

/-- The places of all files. -/
def files (d : Disk) : List Place :=
  d.entries.filterMap fun
    | (place, .file _) => some place
    | (_, .folder) => none

end Disk

end PlanViewer
