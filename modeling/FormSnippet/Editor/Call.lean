import FormSnippet.Disk.Basic
import FormSnippet.Editor.Exit
import FormSnippet.Text.Blank

/-!
# Call — handing the terminal to an editor

The editor command is a line of words: a program and its first arguments.  The path of the forms
file is added as the last argument.  Before the program is started the terminal is given up, and
once the program has ended, or has not been started at all, the terminal is taken back.

What the terminal and the programs do is not decided here: it belongs to the system.

- `System`  : what becomes of giving up the terminal, of a program, and of taking the terminal back
- `verdict` : whether a call has gone well
- `run`     : a call
-/

namespace FormSnippet
namespace Editor

/-! ## Errors -/

/-- Why a program cannot be started. -/
inductive StartError
  | disk (cause : DiskError)
  | nulInCommand
  /-- Whatever else the system may say. -/
  | refused (text : String)
  deriving DecidableEq, Repr

def StartError.message : StartError → String
  | .disk cause => cause.message
  | .nulInCommand => "nul byte found in provided data"
  | .refused text => text

inductive Error
  | unset
  /-- The terminal cannot be given up, or cannot be taken back; the system says why. -/
  | terminal (text : String)
  | start (cause : StartError)
  | ended (exit : Exit)
  deriving DecidableEq, Repr

namespace Error

def message : Error → String
  | .unset => "EDITOR is not set"
  | .terminal text => "terminal mode switch failed: " ++ text
  | .start cause => "failed to launch editor: " ++ cause.message
  | .ended exit => "editor exited with " ++ exit.message

end Error

/-! ## Systems -/

/-- The system under an editor.  A failure to switch the terminal is a text. -/
structure System where
  leaveRawMode : Except String Unit
  leaveScreen : Except String Unit
  /-- Starts a program on its arguments, with variables from outside, and waits for its end.  A disk
  is left in any case. -/
  start : String → List String → Disk → List (String × String) → Disk × Except StartError Exit
  enterScreen : Except String Unit
  enterRawMode : Except String Unit

namespace System

/-- Gives up the terminal. -/
def release (system : System) : Except String Unit := do
  system.leaveRawMode
  system.leaveScreen

/-- Takes the terminal back. -/
def restore (system : System) : Except String Unit := do
  system.enterScreen
  system.enterRawMode

end System

/-! ## Calls -/

/-- A program that has not been started counts for more than a terminal that is not taken back, and
that for more than how the program has ended. -/
def verdict (ended : Except StartError Exit) (restored : Except String Unit) : Except Error Unit :=
  match ended, restored with
  | .error cause, _ => .error (.start cause)
  | .ok _, .error text => .error (.terminal text)
  | .ok exit, .ok () => if exit = .status 0 then .ok () else .error (.ended exit)

/-- Calls the editor on a path.  The terminal is taken back whatever has become of the program. -/
def run (system : System) (command : String) (path : Path) (disk : Disk)
    (bindings : List (String × String)) : Disk × Except Error Unit :=
  match Text.words command with
  | [] => (disk, .error .unset)
  | word :: arguments =>
      match system.release with
      | .error text => (disk, .error (.terminal text))
      | .ok () =>
          let (disk, ended) := system.start word (arguments ++ [path.text]) disk bindings
          (disk, verdict ended system.restore)

section Run

variable {system : System} {command word text : String} {arguments : List String} {path : Path}
  {disk left : Disk} {bindings : List (String × String)} {ended : Except StartError Exit}

theorem run_of_words (words : Text.words command = word :: arguments)
    (released : system.release = .ok ())
    (started : system.start word (arguments ++ [path.text]) disk bindings = (left, ended)) :
    run system command path disk bindings = (left, verdict ended system.restore) := by
  simp only [run, words, released, started]

/-- No program is started without the terminal. -/
theorem run_of_unreleased (words : Text.words command = word :: arguments)
    (failed : system.release = .error text) :
    run system command path disk bindings = (disk, .error (.terminal text)) := by
  simp only [run, words, failed]

end Run

end Editor
end FormSnippet
