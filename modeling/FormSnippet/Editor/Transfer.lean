import FormSnippet.Editor.Program

/-!
# Transfer — copying and moving

`cp` and `mv` take sources and one target.  If the target is a directory, every source goes into it
under its own name; otherwise there is one source, which becomes the target.

- `Transfer.pairs?`     : which source goes where
- `copy`, `move`        : the two programs
-/

namespace FormSnippet
namespace Editor

/-! ## Backups -/

/-- What becomes of a file that would be overwritten: it may be renamed, with a number or with a
suffix. -/
inductive Backup
  | none
  | suffix
  | numbered
  | existing
  deriving DecidableEq, Repr

namespace Backup

def ofName? (name : String) : Option Backup :=
  let names : List (String × Backup) :=
    [("none", .none), ("off", .none), ("simple", .suffix), ("never", .suffix),
      ("existing", .existing), ("nil", .existing), ("numbered", .numbered), ("t", .numbered)]
  match names.find? (·.1 = name) with
  | some (_, backup) => some backup
  | .none =>
      match names.filter fun (full, _) => name.toList.isPrefixOf full.toList with
      | [] => .none
      | (_, backup) :: rest => if rest.all (·.2 = backup) then some backup else .none

/-- The numbers of the backups of a file that there are. -/
def numbers (disk : Disk) (place : Disk.Location) : List Nat :=
  let head := (place.getLast?.getD "") ++ ".~"
  (disk.children place.dropLast).filterMap fun (location, _) =>
    let name := location.getLast?.getD ""
    if head.toList.isPrefixOf name.toList && name.endsWith "~" then
      (String.ofList ((name.toList.drop head.length).dropLast)).toNat?
    else .none

/-- The place to which a file is renamed. -/
def place? (backup : Backup) (suffix : String) (disk : Disk) (place : Disk.Location) :
    Option Disk.Location :=
  let renamed (name : String) := place.dropLast ++ [(place.getLast?.getD "") ++ name]
  let taken := numbers disk place
  let number := renamed (".~" ++ toString (taken.foldl max 0 + 1) ++ "~")
  match backup with
  | .none => .none
  | .suffix => some (renamed suffix)
  | .numbered => some number
  | .existing => some (if taken.isEmpty then renamed suffix else number)

end Backup

/-! ## Transfers -/

/-- What the options say about a transfer. -/
structure Manner where
  recursive : Bool := false
  /-- Files that are there already stay. -/
  keep : Bool := false
  /-- Files that are there already stay unless they are older, which none of them is. -/
  update : Bool := false
  /-- Only copies are made that share their content with the source, which is not possible here. -/
  shared : Bool := false
  /-- Only what is not content is copied. -/
  hollow : Bool := false
  /-- The target gets the directories that the path of the source names. -/
  parents : Bool := false
  /-- Another name for a file is made, which must be new. -/
  link : Bool := false
  backup : Backup := .none
  suffix : String := "~"

/-- How far a program has come: the files that it has read and those that it has made. -/
structure Transfer where
  disk : Disk
  read : List Disk.Location := []
  made : List Disk.Location := []
  failed : Bool := false

namespace Transfer

def fail (t : Transfer) : Transfer :=
  { t with failed := true }

/-- The target directory with the name of a source.  A source that ends in `..` has no name. -/
def inside (directory source : Path) : Path :=
  match baseName source with
  | ".." => directory
  | name => directory.join name

/-- Which source goes where; `none` if the operands do not fit together. -/
def pairs? (options : Options) (disk : Disk) : Option (List (Path × Path)) :=
  let into (directory : String) (sources : List String) : List (Path × Path) :=
    sources.map fun source =>
      if options.has "parents" then
        (⟨source⟩, (Path.mk directory).join ("/".intercalate (Path.mk source).steps))
      else (⟨source⟩, inside ⟨directory⟩ ⟨source⟩)
  let targets := options.given.filter (·.1 = "target-directory")
  let trimmed (word : String) : String :=
    match word.toList.reverse.dropWhile (· = '/') with
    | [] => word
    | rest => String.ofList rest.reverse
  let operands :=
    if options.has "strip-trailing-slashes" then options.operands.map trimmed
    else options.operands
  match targets, options.has "no-target-directory", operands with
  | [(_, some directory)], false, operands =>
      if operands.isEmpty || !disk.isDirectory ⟨directory⟩ then .none
      else some (into directory operands)
  | [], true, [source, target] => some [(⟨source⟩, ⟨target⟩)]
  | [], false, operands =>
      match operands.reverse with
      | target :: first :: more =>
          if disk.isDirectory ⟨target⟩ then some (into target (first :: more).reverse)
          else if more.isEmpty && !options.has "parents" then some [(⟨first⟩, ⟨target⟩)]
          else .none
      | _ => .none
  | _, _, _ => .none

/-- A file that would be overwritten is renamed if that is asked for. -/
def makeRoom (manner : Manner) (disk : Disk) (place : Disk.Location) : Disk :=
  match manner.backup.place? manner.suffix disk place, disk.entry? place with
  | some backup, some entry => (disk.remove place).put backup entry
  | _, _ => disk

/-! ## Copying -/

/-- Copies a file.  One that the same program has made is not overwritten. -/
def copyFile (manner : Manner) (t : Transfer) (location : Disk.Location) (content : ByteArray)
    (target : Path) : Transfer :=
  match t.disk.locate target with
  | .ok place =>
      match t.disk.entry? place with
      | some (.file old) =>
          if manner.keep then t
          else if place = location then t.fail
          else if manner.update then t
          else if manner.link then t.fail
          else if manner.shared then
            { t with disk := t.disk.put place (.file .empty), failed := true }
          else if t.made.contains place && manner.backup ≠ .numbered then t.fail
          else
            let content := if manner.hollow && manner.backup = .none then old else content
            let disk := (makeRoom manner t.disk place).put place (.file content)
            { t with disk, made := place :: t.made }
      | _ => t.fail
  | .error _ =>
      match manner.shared, t.disk.write target (if manner.hollow then .empty else content) with
      | false, .ok disk =>
          match disk.locate target with
          | .ok place => { t with disk, made := place :: t.made }
          | .error _ => { t with disk }
      | _, _ => t.fail

/-- The disk with a copy of what is below one location below another.  What is copied does not
contain the copy itself. -/
def copyBelow (manner : Manner) (disk : Disk) (location place : Disk.Location) : Disk :=
  disk.entries.foldl
    (fun disk (source, entry) =>
      if location.isPrefixOf source && source ≠ location && !place.isPrefixOf source then
        let target := place ++ source.drop location.length
        let keeps := manner.keep || manner.update || entry = .directory
        if keeps && (disk.entry? target).isSome then disk
        else disk.put target (if manner.hollow && entry ≠ .directory then .file .empty else entry)
      else disk)
    disk

def copyDirectory (manner : Manner) (t : Transfer) (location : Disk.Location) (target : Path) :
    Transfer :=
  let copyTo (place : Disk.Location) (disk : Disk) : Transfer :=
    let disk := copyBelow manner disk location place
    { t with disk, failed := t.failed || location.isPrefixOf place }
  match t.disk.locate target with
  | .ok place =>
      if place = location || !t.disk.isDirectoryAt place then t.fail else copyTo place t.disk
  | .error _ =>
      match t.disk.makeDirectory target with
      | .error _ => t.fail
      | .ok disk =>
          match disk.locate target with
          | .ok place => copyTo place disk
          | .error _ => t.fail

/-- The directories above a target, if they are to be made. -/
def withParents (manner : Manner) (t : Transfer) (target : Path) : Transfer :=
  match manner.parents, target.parent? with
  | true, some parent => { t with disk := (t.disk.makeAll parent).1 }
  | _, _ => t

/-- A file that is named twice as a source is copied once. -/
def copyOne (manner : Manner) (t : Transfer) (source target : Path) : Transfer :=
  match t.disk.locate source with
  | .error _ => t.fail
  | .ok location =>
      let t := withParents manner t target
      match t.disk.entry? location with
      | some (.file content) =>
          if t.read.contains location && manner.backup = .none then t
          else
            copyFile manner { t with read := location :: t.read } location content target
      | some .directory =>
          if manner.recursive then copyDirectory manner t location target else t.fail
      | .none => t.fail

/-! ## Moving -/

/-- Whether a directory may take the place of what is there. -/
def mayReplace (disk : Disk) (place : Disk.Location) : Bool :=
  match disk.entry? place with
  | .none => true
  | some (.file _) => false
  | some .directory => (disk.children place).isEmpty

/-- The disk with an entry, and what is below it, at another place. -/
def relocate (disk : Disk) (location place : Disk.Location) : Disk :=
  let moved (source : Disk.Location) : Disk.Location :=
    if location.isPrefixOf source then place ++ source.drop location.length else source
  { disk with
    entries := (disk.remove place).entries.map fun (source, entry) => (moved source, entry) }

/-- The place that a target names, whether something is there or not. -/
def placeOf? (disk : Disk) (target : Path) (directory : Bool) : Option Disk.Location :=
  match disk.locate target with
  | .ok place => some place
  | .error .notFound =>
      match disk.slot target with
      | .ok (above, some name) =>
          if target.endsInSlash && !directory then .none
          else (Disk.target above name).toOption
      | _ => .none
  | .error _ => .none

def moveOne (manner : Manner) (t : Transfer) (source target : Path) : Transfer :=
  match t.disk.locate source with
  | .error _ => t.fail
  | .ok location =>
      let directory := t.disk.isDirectoryAt location
      let last := source.steps.getLast?
      match placeOf? t.disk target directory with
      | .none => t.fail
      | some place =>
          if Disk.isRoot location || Disk.isRoot place || last = some "." || last = some ".." then
            t.fail
          else if manner.keep && (t.disk.entry? place).isSome then t
          else if location.isPrefixOf place then t.fail
          else if manner.update && (t.disk.entry? place).isSome then t
          else if (if directory then !mayReplace t.disk place else t.disk.isDirectoryAt place) then
            t.fail
          else if t.made.contains place then t.fail
          else
            { t with
              disk := relocate (makeRoom manner t.disk place) location place
              made := place :: t.made }

/-- Carries out transfers; whether a file is new is only asked where there are several. -/
def all (one : Transfer → Path → Path → Transfer) (disk : Disk) (pairs : List (Path × Path)) :
    Ran :=
  let t := pairs.foldl (fun t (source, target) => one t source target) ({ disk } : Transfer)
  { disk := t.disk, status := if t.failed then 1 else 0 }

end Transfer

/-! ## Programs -/

def transferSwitches : List Switch :=
  [.ofLetter 'b' "backup", .ofName "backup" .optional, .both 'f' "force",
    .both 'i' "interactive", .both 'n' "no-clobber", .ofName "debug",
    .ofName "strip-trailing-slashes", .both 'S' "suffix" .required,
    .both 't' "target-directory" .required, .both 'T' "no-target-directory",
    .ofLetter 'u' "update", .among ["all", "none", "older"] (.ofName "update" .optional),
    .both 'v' "verbose",
    .ofLetter 'Z' "context", .ofName "context" .optional]

def sharingTimes : List String :=
  ["auto", "always", "never"]

/-- A list of what a copy has in common with its source. -/
def isAttributeList (text : String) : Bool :=
  let known := ["mode", "timestamps", "ownership", "links", "context", "xattr", "all"]
  (text.splitOn ",").all fun word =>
    word ≠ "" && known.any fun full => word.toList.isPrefixOf full.toList

def copySwitches : List Switch :=
  transferSwitches ++
    [.both 'a' "archive", .ofName "attributes-only", .ofName "copy-contents",
      .ofLetter 'd' "no-dereference", .both 'P' "no-dereference", .both 'L' "dereference",
      .ofLetter 'H' "follow", .both 'l' "link", .both 's' "symbolic-link",
      .both 'x' "one-file-system", .ofName "parents", .ofLetter 'p' "preserve",
      { Switch.ofName "preserve" .optional with accepts := isAttributeList },
      { Switch.ofName "no-preserve" .required with accepts := isAttributeList },
      .both 'r' "recursive", .ofLetter 'R' "recursive", .ofName "remove-destination",
      .among sharingTimes (.ofName "reflink" .optional),
      .among sharingTimes (.ofName "sparse" .required), .ofName "keep-directory-symlink"]

def moveSwitches : List Switch :=
  transferSwitches ++ [.ofName "exchange", .ofName "no-copy"]

/-- The manner that options ask for, or `none` if the argument of one is wrong. -/
def manner? (options : Options) : Option Manner := do
  let control := options.value? "backup"
  let backup ← if let some name := control then Backup.ofName? name else some .existing
  let wantsBackup := options.has "backup" || options.has "suffix"
  if wantsBackup && options.has "no-clobber" then failure
  let updating (words : List String) : Bool :=
    options.has "update" && words.contains ((options.value? "update").getD "older")
  return {
    recursive := options.has "recursive" || options.has "archive"
    keep := options.has "no-clobber" || updating ["none"]
    update := updating ["older"]
    shared := options.has "reflink" && (options.value? "reflink").all (· = "always")
    hollow := options.has "attributes-only"
    parents := options.has "parents"
    link := options.has "link" || options.has "symbolic-link"
    backup := if wantsBackup then backup else .none
    suffix := (options.value? "suffix").getD "~" }

def transfer (switches : List Switch) (one : Manner → Transfer → Path → Path → Transfer) :
    Program :=
  .withOptions switches fun options _ disk =>
    match manner? options, Transfer.pairs? options disk with
    | some manner, some pairs => Transfer.all (one manner) disk pairs
    | _, _ => { disk, status := 1 }

def copy : Program :=
  transfer copySwitches Transfer.copyOne

def move : Program :=
  transfer moveSwitches Transfer.moveOne

end Editor
end FormSnippet
