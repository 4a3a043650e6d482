import FormSnippet.Disk.Path

/-!
# Disk — files and directories

A disk maps locations to entries.  A location is the list of names on the way from the starting
directory down to an entry.  What is not below the starting directory has a location too: the top of
the disk is `["/"]` and the directory above the starting directory is `[".."]`, which are no names.
Paths are resolved step by step from the working directory, each step in the directory that the
steps before it have reached, and every way to fail is a `DiskError`.

- `Disk.locate`         : the location that a path names
- `Disk.read`           : the text of a file
- `Disk.write`          : a file made or overwritten
- `Disk.makeDirectory`  : a single directory made
- `Disk.makeAll`        : a directory made together with its missing ancestors
-/

namespace FormSnippet

/-! ## Failures -/

inductive DiskError
  | notFound
  | permissionDenied
  | exists
  | notDirectory
  | isDirectory
  | nameTooLong
  | notText
  | nulInName
  deriving DecidableEq, Repr

namespace DiskError

def message : DiskError → String
  | .notFound => "No such file or directory (os error 2)"
  | .permissionDenied => "Permission denied (os error 13)"
  | .exists => "File exists (os error 17)"
  | .notDirectory => "Not a directory (os error 20)"
  | .isDirectory => "Is a directory (os error 21)"
  | .nameTooLong => "File name too long (os error 36)"
  | .notText => "stream did not contain valid UTF-8"
  | .nulInName => "file name contained an unexpected NUL byte"

end DiskError

/-! ## Entries -/

namespace Disk

abbrev Location : Type :=
  List String

inductive Entry
  | directory
  | file (content : ByteArray)
  deriving Inhabited

/-- Files are compared by their bytes. -/
instance : DecidableEq Entry
  | .directory, .directory => .isTrue rfl
  | .directory, .file _ => .isFalse nofun
  | .file _, .directory => .isFalse nofun
  | .file a, .file b =>
      if h : a.data = b.data then .isTrue (congrArg Entry.file (ByteArray.ext h))
      else .isFalse fun equal => h (congrArg ByteArray.data (Entry.file.inj equal))

end Disk

/-- The entries at their locations, and the working directory. -/
structure Disk where
  entries : List (Disk.Location × Disk.Entry)
  current : Disk.Location := []
  deriving Inhabited

namespace Disk

def empty : Disk :=
  { entries := [] }

/-- The starting directory, the one above it and the top of the disk are there from the beginning.
-/
def isRoot (location : Location) : Bool :=
  location = [] || location = [".."] || location = ["/"]

/-- The directory above.  What is above the outer two directories is not told apart from them. -/
def above (location : Location) : Location :=
  if location = [] then [".."] else if isRoot location then location else location.dropLast

def entry? (disk : Disk) (location : Location) : Option Entry :=
  if isRoot location then some .directory
  else (disk.entries.find? (·.1 = location)).map (·.2)

def isDirectoryAt (disk : Disk) (location : Location) : Bool :=
  match disk.entry? location with
  | some .directory => true
  | _ => false

/-- The disk with that entry at that location, whatever was there before. -/
def put (disk : Disk) (location : Location) (entry : Entry) : Disk :=
  { disk with entries := disk.entries.filter (·.1 ≠ location) ++ [(location, entry)] }

/-- The disk without the entry at a location and without what is below it. -/
def remove (disk : Disk) (location : Location) : Disk :=
  { disk with entries := disk.entries.filter fun entry => !location.isPrefixOf entry.1 }

/-- The entries right below a location. -/
def children (disk : Disk) (location : Location) : List (Location × Entry) :=
  disk.entries.filter fun entry => entry.1.dropLast = location && entry.1 ≠ []

/-! ## Resolving paths -/

def maxNameBytes : Nat :=
  255

def maxPathBytes : Nat :=
  4095

/-- Follows steps from a location.  Only a directory can be stepped from. -/
def walk (disk : Disk) : Location → List String → Except DiskError Location
  | location, [] => .ok location
  | location, step :: rest =>
      match disk.entry? location with
      | none => .error .notFound
      | some (.file _) => .error .notDirectory
      | some .directory =>
          if step = "." then disk.walk location rest
          else if step = ".." then disk.walk (above location) rest
          else if step.utf8ByteSize > maxNameBytes then .error .nameTooLong
          else
            match disk.entry? (location ++ [step]) with
            | none => .error .notFound
            | some _ => disk.walk (location ++ [step]) rest

/-- What is wrong with a path before any step is taken. -/
def checkPath (path : Path) : Except DiskError Unit :=
  if path.text.toList.contains '\x00' then .error .nulInName
  else if path.text = "" then .error .notFound
  else if path.text.utf8ByteSize > maxPathBytes then .error .nameTooLong
  else .ok ()

/-- Where the steps of a path begin. -/
def startOf (disk : Disk) (path : Path) : Location :=
  if path.isAbsolute then ["/"] else disk.current

/-- The location of an entry that exists.  A path that ends in a slash names a directory. -/
def locate (disk : Disk) (path : Path) : Except DiskError Location := do
  checkPath path
  let location ← disk.walk (disk.startOf path) path.steps
  if path.endsInSlash && !disk.isDirectoryAt location then .error .notDirectory
  else .ok location

def lookup (disk : Disk) (path : Path) : Except DiskError Entry := do
  let location ← disk.locate path
  match disk.entry? location with
  | some entry => .ok entry
  | none => .error .notFound

def «exists» (disk : Disk) (path : Path) : Bool :=
  match disk.locate path with
  | .ok _ => true
  | .error _ => false

def isDirectory (disk : Disk) (path : Path) : Bool :=
  match disk.locate path with
  | .ok location => disk.isDirectoryAt location
  | .error _ => false

/-- The directory in which a path names an entry, and the name, which may be new.  A path without a
name of its own, such as one that ends in `..`, gives no name. -/
def slot (disk : Disk) (path : Path) : Except DiskError (Location × Option String) := do
  checkPath path
  match path.steps.getLast? with
  | none => .ok (disk.startOf path, none)
  | some name => do
      let location ← disk.walk (disk.startOf path) path.steps.dropLast
      if !disk.isDirectoryAt location then .error .notDirectory
      else if name = "." || name = ".." then .ok (location, none)
      else .ok (location, some name)

/-- The location of a new entry. -/
def target (location : Location) (name : String) : Except DiskError Location :=
  if name.utf8ByteSize > maxNameBytes then .error .nameTooLong else .ok (location ++ [name])

/-! ## Files -/

def read (disk : Disk) (path : Path) : Except DiskError String := do
  match ← disk.lookup path with
  | .directory => .error .isDirectory
  | .file content =>
      match String.fromUTF8? content with
      | some text => .ok text
      | none => .error .notText

/-- Makes a file with that content, or overwrites one.  A path that ends in a slash is refused
before its last name is looked at. -/
def write (disk : Disk) (path : Path) (content : ByteArray) : Except DiskError Disk := do
  match ← disk.slot path with
  | (_, none) => .error .isDirectory
  | (location, some name) => do
      if path.endsInSlash then .error .isDirectory
      else
        let target ← target location name
        if disk.isDirectoryAt target then .error .isDirectory
        else .ok (disk.put target (.file content))

/-! ## Directories -/

def makeDirectory (disk : Disk) (path : Path) : Except DiskError Disk := do
  match ← disk.slot path with
  | (_, none) => .error .exists
  | (location, some name) => do
      let target ← target location name
      match disk.entry? target with
      | some _ => .error .exists
      | none => .ok (disk.put target .directory)

/-- A directory that cannot be made is no failure if it is there already. -/
def makeUnlessThere (disk : Disk) (path : Path) : Disk × Except DiskError Unit :=
  match disk.makeDirectory path with
  | .ok disk => (disk, .ok ())
  | .error error => (disk, if disk.isDirectory path then .ok () else .error error)

/-- Makes the ancestors of a path as far as they are missing, and then the path itself.  Every call
goes up one step, so the length of the path is fuel enough. -/
def makeAllFuel : Nat → Disk → Path → Disk × Except DiskError Unit
  | 0, disk, _ => (disk, .ok ())
  | fuel + 1, disk, path =>
      match path.parent? with
      | none => (disk, .ok ())
      | some parent =>
          match disk.makeDirectory path with
          | .ok disk => (disk, .ok ())
          | .error .notFound =>
              match makeAllFuel fuel disk parent with
              | (disk, .ok ()) => disk.makeUnlessThere path
              | (disk, .error error) => (disk, .error error)
          | .error error => (disk, if disk.isDirectory path then .ok () else .error error)

/-- What has been made before a failure stays. -/
def makeAll (disk : Disk) (path : Path) : Disk × Except DiskError Unit :=
  makeAllFuel (path.text.length + 1) disk path

/-! ## Setting up a disk -/

/-- The disk with directories at all locations above the given one. -/
def withAncestors (disk : Disk) (location : Location) : Disk :=
  (List.range location.length).foldl
    (fun disk n =>
      let above := location.take n
      if disk.isDirectoryAt above then disk else disk.put above .directory)
    disk

/-- The disk with that entry at the place of a path, and with its ancestors. -/
def install (disk : Disk) (path : Path) (entry : Entry) : Disk :=
  let location := path.steps.filter (· ≠ ".")
  if isRoot location then disk else (disk.withAncestors location).put location entry

end Disk
end FormSnippet
