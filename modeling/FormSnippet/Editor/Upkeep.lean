import FormSnippet.Editor.Program

/-!
# Upkeep — making and removing

The programs that make and remove files and directories.

- `remove`, `removeDirectories`     : `rm` and `rmdir`
- `touch`, `makeDirectories`        : `touch` and `mkdir`
- `changeMode`                      : `chmod`
-/

namespace FormSnippet
namespace Editor

/-! ## Removing -/

def removeOne (options : Options) (disk : Disk) (name : String) : Disk × Bool :=
  let path : Path := ⟨name⟩
  let last := path.steps.getLast?
  match disk.locate path with
  | .error .notFound | .error .notDirectory => (disk, options.has "force")
  | .error _ => (disk, false)
  | .ok location =>
      if Disk.isRoot location || last = some "." || last = some ".." then (disk, false)
      else if !disk.isDirectoryAt location || options.has "recursive" then
        (disk.remove location, true)
      else if options.has "dir" && (disk.children location).isEmpty then
        (disk.remove location, true)
      else (disk, false)

def removeSwitches : List Switch :=
  [.both 'f' "force", .ofLetter 'i' "ask", .ofLetter 'I' "ask",
    .among ["never", "no", "none", "once", "always", "yes"] (.ofName "interactive" .optional),
    .ofName "one-file-system", .ofName "no-preserve-root",
    { Switch.ofName "preserve-root" .optional with accepts := (· = "all") },
    .both 'r' "recursive", .ofLetter 'R' "recursive", .both 'd' "dir", .both 'v' "verbose"]

def remove : Program :=
  .withOptions removeSwitches fun options _ disk =>
    if options.operands.isEmpty then { disk, status := if options.has "force" then 0 else 1 }
    else eachOf (removeOne options) disk options.operands

/-- Removes an empty directory, and with `parents` those above it as far as the path names them.
`ignore` says that it is no failure to find something in a directory. -/
def removeEmpty (parents ignore : Bool) : Nat → Disk → Path → Disk × Bool
  | 0, disk, _ => (disk, true)
  | fuel + 1, disk, path =>
      match disk.locate path with
      | .error _ => (disk, false)
      | .ok location =>
          let last := path.steps.getLast?
          if last = some ".." then (disk, ignore)
          else if Disk.isRoot location || last = some "." || !disk.isDirectoryAt location then
            (disk, false)
          else if !(disk.children location).isEmpty then (disk, ignore)
          else
            let disk := disk.remove location
            match parents, path.parent? with
            | true, some parent =>
                if parent.text = "" then (disk, true)
                else removeEmpty parents ignore fuel disk parent
            | _, _ => (disk, true)

def removeDirectories : Program :=
  .withOptions
    [.both 'p' "parents", .both 'v' "verbose", .ofName "ignore-fail-on-non-empty"]
    fun options _ disk =>
      if options.operands.isEmpty then { disk, status := 1 }
      else
        eachOf
          (fun disk name =>
            removeEmpty (options.has "parents") (options.has "ignore-fail-on-non-empty")
              (name.length + 1) disk ⟨name⟩)
          disk options.operands

/-! ## Times -/

/-- A number of two digits that is not greater than a limit. -/
def isPairUpTo (limit : Nat) (a b : Char) : Bool :=
  a.isDigit && b.isDigit && (String.ofList [a, b]).toNat?.any (· ≤ limit)

/-- Month, day, hour and minute, which may follow a year and precede seconds. -/
def isStamp (text : String) : Bool :=
  let (digits, seconds) := (text.toList.takeWhile (· ≠ '.'), text.toList.dropWhile (· ≠ '.'))
  let isTime : List Char → Bool
    | [a, b, c, d, e, f, g, h] =>
        isPairUpTo 12 a b && (a, b) ≠ ('0', '0') && isPairUpTo 31 c d && (c, d) ≠ ('0', '0') &&
          isPairUpTo 23 e f && isPairUpTo 59 g h
    | _ => false
  let year := digits.length - 8
  (year = 0 || year = 2 || year = 4) && digits.all (·.isDigit) && isTime (digits.drop year) &&
    match seconds with
    | [] => true
    | ['.', a, b] => isPairUpTo 60 a b
    | _ => false

/-- The words that may stand in a date. -/
def dateWords : List String :=
  ["now", "today", "yesterday", "tomorrow", "ago", "next", "last", "this", "year", "years",
    "month", "months", "week", "weeks", "fortnight", "day", "days", "hour", "hours", "minute",
    "minutes", "min", "mins", "second", "seconds", "sec", "secs", "am", "pm", "utc", "gmt",
    "jan", "feb", "mar", "apr", "may", "jun", "jul", "aug", "sep", "sept", "oct", "nov", "dec",
    "january", "february", "march", "april", "june", "july", "august", "september", "october",
    "november", "december", "sun", "mon", "tue", "wed", "thu", "fri", "sat", "sunday", "monday",
    "tuesday", "wednesday", "thursday", "friday", "saturday"]

/-- A date is made of numbers, marks between them, signs and known words; a single letter is a time
zone. -/
def isDate (text : String) : Bool :=
  let cs := text.toLower.toList.filter fun c => c ≠ '+' && c ≠ '-'
  let runs := cs.splitBy fun a b => a.isAlpha == b.isAlpha
  let isMark (c : Char) : Bool := ":/.,@".toList.contains c
  cs.all (fun c => c.isAlphanum || c.isWhitespace || isMark c) &&
    (cs.any (·.isDigit) || !(cs.any isMark || runs.any (["am".toList, "pm".toList].contains))) &&
    runs.all fun run =>
      !run.all (·.isAlpha) || run.length = 1 || dateWords.contains (String.ofList run)

/-! ## Making -/

/-- A change of permissions: for whom, how, and which. -/
def isModeChange (change : List Char) : Bool :=
  let isOperator (c : Char) : Bool := ['+', '-', '='].contains c
  let rest := change.dropWhile "ugoa".toList.contains
  rest.head?.any isOperator &&
    rest.all fun c => isOperator c || "rwxXstugo".toList.contains c

/-- Permissions are written as a number to the base eight or as changes between commas. -/
def isMode (text : String) : Bool :=
  let isOctal (c : Char) : Bool := '0' ≤ c && c ≤ '7'
  if text.toList.head?.any isOctal then text.toList.all isOctal && text.length ≤ 5
  else (text.splitOn ",").all fun change => isModeChange change.toList

def touchOne (create mayBeMissing : Bool) (disk : Disk) (name : String) : Disk × Bool :=
  let path : Path := ⟨name⟩
  match disk.locate path with
  | .ok _ => (disk, true)
  | .error .notFound =>
      if name = "-" then (disk, true)
      else if create then
        match disk.write path .empty with
        | .ok disk => (disk, true)
        | .error _ => (disk, false)
      else (disk, mayBeMissing)
  | .error _ => (disk, false)

def touchSwitches : List Switch :=
  [.ofLetter 'a' "access", .both 'c' "no-create", .both 'd' "date" .required,
    .ofLetter 'f' "ignored",
    .both 'h' "no-dereference", .ofLetter 'm' "modification", .both 'r' "reference" .required,
    .ofLetter 't' "stamp" .required,
    .among ["access", "atime", "use", "modify", "mtime"] (.ofName "time" .required)]

def touch : Program :=
  .withOptions touchSwitches fun options _ disk =>
    let sources := (if options.has "stamp" then 1 else 0) +
      if options.has "date" || options.has "reference" then 1 else 0
    let wellFormed :=
      sources ≤ 1 && (options.value? "stamp").all isStamp && (options.value? "date").all isDate &&
        (options.value? "reference").all (disk.exists ⟨·⟩)
    if options.operands.isEmpty || !wellFormed then { disk, status := 1 }
    else
      let mayBeMissing := options.has "no-create"
      let create := !(mayBeMissing || options.has "no-dereference")
      eachOf (touchOne create mayBeMissing) disk options.operands

/-- Permissions change nothing that could be seen, but the files must be there. -/
def changeMode : Program :=
  .withOptions
    [.both 'c' "changes", .both 'f' "silent", .ofName "quiet", .both 'v' "verbose",
      .both 'R' "recursive", .ofName "reference" .required]
    fun options _ disk =>
      match options.operands with
      | mode :: name :: names =>
          let found := (name :: names).all (disk.exists ⟨·⟩)
          { disk, status := if isMode mode && found then 0 else 1 }
      | _ => { disk, status := 1 }

def makeDirectories : Program :=
  .withOptions
    [.both 'p' "parents", .both 'm' "mode" .required, .both 'v' "verbose", .ofLetter 'Z' "context",
      .ofName "context" .optional]
    fun options _ disk =>
      if options.operands.isEmpty || !(options.value? "mode").all isMode then { disk, status := 1 }
      else
        eachOf
          (fun disk name =>
            if options.has "parents" then
              match disk.makeAll ⟨name⟩ with
              | (disk, .ok ()) => (disk, name ≠ "")
              | (disk, .error _) => (disk, false)
            else
              match disk.makeDirectory ⟨name⟩ with
              | .ok disk => (disk, true)
              | .error _ => (disk, false))
          disk options.operands

end Editor
end FormSnippet
