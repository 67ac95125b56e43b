import RobotCell.Command.Path
import RobotCell.Command.Rights

/-!
# File trees

A file tree says which files, directories and symbolic links there are. A location is given by the
names from the root, and a path is followed from name to name and from link to link. A file has a
number, so that it can be at several locations. Devices are not in a file tree.

## Main definitions

- `FileError` — why a file cannot be used
- `FileTree`, `FileTree.entryAt?` — what is at a location
- `FileTree.walk`, `FileTree.locate` — the location that a path leads to
- `FileTree.read`, `FileTree.list` — the contents of files and directories
- `FileTree.write` — the tree with a text written to a file
- `FileTree.mode`, `FileTree.setMode` — the mode of a file or a directory
-/

namespace RobotCell

/-- Why a file cannot be used. -/
inductive FileError where
  | notFound
  /-- The rights of a file or a directory do not allow its use. -/
  | denied
  /-- Only the owner of a file may do this. -/
  | notPermitted
  | notDirectory
  | isDirectory
  | tooManyLinks
  | notText
  /-- A name, or the whole path, is too long. -/
  | tooLong
  /-- The path holds the character with the code zero. -/
  | zeroInPath
  | other (message : String)
  deriving DecidableEq

/-- The wording of an error. -/
def FileError.message : FileError → String
  | .notFound => "No such file or directory (os error 2)"
  | .denied => "Permission denied (os error 13)"
  | .notPermitted => "Operation not permitted (os error 1)"
  | .notDirectory => "Not a directory (os error 20)"
  | .isDirectory => "Is a directory (os error 21)"
  | .tooManyLinks => "Too many levels of symbolic links (os error 40)"
  | .notText => "stream did not contain valid UTF-8"
  | .tooLong => "File name too long (os error 36)"
  | .zeroInPath => "file name contained an unexpected NUL byte"
  | .other message => message

/-- A file without its names. -/
structure FileState where
  content : ByteArray
  rights : Rights

/-- A directory, or a file by its number. -/
inductive Node where
  | directory (rights : Rights)
  | file (number : Nat)

/-- What is at a location. -/
inductive FileEntry where
  | node (node : Node)
  /-- A symbolic link: the path is followed in its place. -/
  | link (path : String)

/-- The number of the file that is there. -/
def FileEntry.number? : FileEntry → Option Nat
  | .node (.file number) => some number
  | _ => none

/-- The path of a link. -/
def FileEntry.link? : FileEntry → Option String
  | .link path => some path
  | _ => none

/-- The names from the root to a file, a directory or a link. -/
abbrev Location : Type := List String

/-- What there is by location, and the files by number. The first entry of a location counts. -/
structure FileTree where
  entries : List (Location × FileEntry)
  files : Nat → FileState

/-- The path can be looked up at all. -/
def Path.check (path : String) : Except FileError Unit :=
  if path.toList.contains '\x00' then .error .zeroInPath
  else if Path.maxSize < path.utf8ByteSize then .error .tooLong
  else .ok ()

/-- The name can be looked up in a directory. -/
def Path.checkName (name : String) : Except FileError Unit :=
  if Path.maxNameSize < name.utf8ByteSize then .error .tooLong else .ok ()

namespace FileTree

/-- The rights of the root, if the tree does not say otherwise. -/
def rootRights : Rights := ⟨0, 0, 0o755⟩

/-- What is at a location. There always is a root. -/
def entryAt? (t : FileTree) (location : Location) : Option FileEntry :=
  match t.entries.lookup location with
  | some entry => some entry
  | none => if location = [] then some (.node (.directory rootRights)) else none

/-- The tree with another entry at a location. -/
def set (t : FileTree) (location : Location) (entry : FileEntry) : FileTree :=
  { t with entries := (location, entry) :: t.entries.filter fun e => e.1 ≠ location }

/-- The tree with another state of a file. -/
def setFile (t : FileTree) (number : Nat) (file : FileState) : FileTree :=
  { t with files := fun k => if k = number then file else t.files k }

/-- A number that no file of the tree has. -/
def freshNumber (t : FileTree) : Nat :=
  (t.entries.filterMap fun e => FileEntry.number? e.2).max?.getD 0 + 1

/-- The tree with a new file at a location. -/
def addFile (t : FileTree) (location : Location) (file : FileState) : FileTree :=
  (t.set location (.node (.file t.freshNumber))).setFile t.freshNumber file

/-! ### Paths -/

/-- The path of the link at a location. -/
def linkAt? (t : FileTree) (location : Location) : Option String :=
  (t.entryAt? location).bind FileEntry.link?

/-- The rights of the directory at a location. -/
def directoryAt (t : FileTree) (location : Location) : Except FileError Rights :=
  match t.entryAt? location with
  | some (.node (.directory rights)) => .ok rights
  | some _ => .error .notDirectory
  | none => .error .notFound

/-- The user may look up names in the directory at a location. -/
def checkSearch (t : FileTree) (u : User) (location : Location) : Except FileError Unit := do
  let rights ← t.directoryAt location
  if rights.allow u .search then return ()
  throw .denied

/-- The location that names lead to from a given one. Each name is looked up in a directory, and
where it is that of a link, `onLink` goes on with the path of the link in its place. A slash behind
the last name asks for a directory, which cannot be created as a file. -/
def walkWith (t : FileTree) (u : User) (creating : Bool)
    (onLink : Bool → Location → List String → Except FileError Location) (slash : Bool) :
    Location → List String → Except FileError Location
  | location, [] => do
    if slash then
      let _ ← t.directoryAt location
    return location
  | location, name :: rest => do
    t.checkSearch u location
    if creating && slash && rest.isEmpty then throw .isDirectory
    else if name = "." then t.walkWith u creating onLink slash location rest
    else if name = ".." then t.walkWith u creating onLink slash location.dropLast rest
    else do
      Path.checkName name
      match t.linkAt? (location ++ [name]) with
      | some path =>
        onLink (slash || rest.isEmpty && Path.endsInSlash path)
          (if Path.isAbsolute path then [] else location) (Path.names path ++ rest)
      | none => t.walkWith u creating onLink slash (location ++ [name]) rest

/-- The location that names lead to if at most the given number of links is followed. -/
def walk (t : FileTree) (u : User) (creating : Bool) :
    Nat → Bool → Location → List String → Except FileError Location
  | 0 => t.walkWith u creating fun _ _ _ => .error .tooManyLinks
  | links + 1 => t.walkWith u creating (t.walk u creating links)

/-- The location that an absolute path leads to, be it that of a file that is to be created. -/
def follow (t : FileTree) (u : User) (creating : Bool) (path : String) :
    Except FileError Location := do
  Path.check path
  t.walk u creating Path.maxLinks (Path.endsInSlash path) [] (Path.names path)

/-- The location that an absolute path leads to. -/
def locate (t : FileTree) (u : User) (path : String) : Except FileError Location :=
  t.follow u false path

/-- What is at the end of a path. -/
def find (t : FileTree) (u : User) (path : String) : Except FileError Node := do
  let location ← t.locate u path
  match t.entryAt? location with
  | some (.node node) => return node
  | _ => throw .notFound

/-! ### Reading -/

/-- The text of a file. -/
def read (t : FileTree) (u : User) (path : String) : Except FileError String := do
  match ← t.find u path with
  | .directory rights => throw (if rights.allow u .read then .isDirectory else .denied)
  | .file number =>
    let file := t.files number
    if file.rights.allow u .read then
      match String.fromUTF8? file.content with
      | some text => return text
      | none => throw .notText
    else throw .denied

/-- The path leads to something. -/
def isPresent (t : FileTree) (u : User) (path : String) : Bool :=
  match t.find u path with
  | .ok _ => true
  | .error _ => false

/-- The path leads to a directory. -/
def isDirectory (t : FileTree) (u : User) (path : String) : Bool :=
  match t.find u path with
  | .ok (.directory _) => true
  | _ => false

/-- The name of a location in the given directory. -/
def nameIn? : Location → Location → Option String
  | [], [name] => some name
  | d :: dir, l :: location => if d = l then nameIn? dir location else none
  | _, _ => none

/-- The names in a directory. -/
def list (t : FileTree) (u : User) (path : String) : Except FileError (List String) := do
  let location ← t.locate u path
  let rights ← t.directoryAt location
  if rights.allow u .read then
    return (t.entries.filterMap fun e => nameIn? location e.1).eraseDups
  throw .denied

/-- The mode of a file or a directory. -/
def mode (t : FileTree) (u : User) (path : String) : Except FileError Nat := do
  match ← t.find u path with
  | .directory rights => return rights.mode
  | .file number => return (t.files number).rights.mode

/-! ### Changes -/

/-- The tree with a text written to a file, which is created if it is not there. The rights of a file
that is there stay as they are. -/
def write (t : FileTree) (u : User) (path text : String) : Except FileError FileTree := do
  let location ← t.follow u true path
  match t.entryAt? location with
  | some (.node (.directory _)) => throw .isDirectory
  | some (.node (.file number)) =>
    if (t.files number).rights.allow u .write then
      return t.setFile number { t.files number with content := text.toUTF8 }
    else throw .denied
  | some (.link _) => throw .tooManyLinks
  | none =>
    let rights ← t.directoryAt location.dropLast
    if rights.allow u .write then return t.addFile location ⟨text.toUTF8, .ofNewFile u⟩
    else throw .denied

/-- The tree with another mode of a file or a directory. -/
def setMode (t : FileTree) (u : User) (path : String) (mode : Nat) : Except FileError FileTree := do
  let location ← t.locate u path
  match t.entryAt? location with
  | some (.node (.directory rights)) =>
    if rights.mayChange u then return t.set location (.node (.directory { rights with mode }))
    else throw .notPermitted
  | some (.node (.file number)) =>
    let file := t.files number
    if file.rights.mayChange u then
      return t.setFile number { file with rights := { file.rights with mode } }
    else throw .notPermitted
  | _ => throw .notFound

end FileTree

end RobotCell
