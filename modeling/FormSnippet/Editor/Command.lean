import FormSnippet.Editor.Call
import FormSnippet.Editor.Script.Run

/-!
# Command — the programs that a command can start

- `start`       : starts a program that is installed
- `installed`   : the system with these programs and a terminal that can always be switched
-/

namespace FormSnippet
namespace Editor

/-- Starts a program.  A word without a slash is looked up among the installed programs; a word with
one names a place, where no file is executable.  A directory that has the word as a name is found
but cannot be run. -/
def start (word : String) (arguments : List String) (disk : Disk)
    (bindings : List (String × String)) : Disk × Except StartError Exit :=
  if (word :: arguments).any (·.toList.contains '\x00') then (disk, .error .nulInCommand)
  else
    match Script.Shell.installed? word with
    | some "sh" =>
        let (disk, exit) := Script.runShell bindings arguments disk
        (disk, .ok exit)
    | some name =>
        match find? name with
        | some program =>
            let ran := program arguments .empty disk
            (ran.disk, .ok (.status ran.status))
        | none => (disk, .error (.disk .notFound))
    | none =>
        let cause : DiskError :=
          if word.toList.contains '/' then
            match disk.lookup ⟨word⟩ with
            | .ok _ => .permissionDenied
            | .error cause => cause
          else if word = "." || word = ".." then .permissionDenied
          else if word.utf8ByteSize > Disk.maxNameBytes then .nameTooLong
          else .notFound
        (disk, .error (.disk cause))

def installed : System where
  leaveRawMode := .ok ()
  leaveScreen := .ok ()
  start
  enterScreen := .ok ()
  enterRawMode := .ok ()

end Editor
end FormSnippet
