import FormSnippet.Disk.Basic
import FormSnippet.Editor.Options

/-!
# Program — what the programs of an editor command have in common

A program takes its arguments, what it can read as its input, and the disk.  It leaves behind the
disk, what it prints, and an exit status: 0 if it did what was asked, and a greater number if not.
-/

namespace FormSnippet
namespace Editor

structure Ran where
  disk : Disk
  status : Nat := 0
  output : ByteArray := .empty

abbrev Program : Type :=
  List String → ByteArray → Disk → Ran

namespace Program

/-- A program that leaves the disk alone, whatever it is asked. -/
def constant (status : Nat) : Program := fun _ _ disk =>
  { disk, status }

/-- A program with options.  One that is only asked about itself does nothing else, and one that
does not know an option does nothing at all. -/
def withOptions (switches : List Switch) (run : Options → ByteArray → Disk → Ran) : Program :=
  fun arguments input disk =>
    match Options.read switches arguments with
    | .run options => run options input disk
    | .inform => { disk }
    | .refuse => { disk, status := 1 }

end Program

/-- Several steps one after the other, each of which may fail without keeping the next from being
taken. -/
def eachOf {α : Type} (step : Disk → α → Disk × Bool) (disk : Disk) (items : List α) : Ran :=
  items.foldl
    (fun ran item =>
      let (disk, done) := step ran.disk item
      { ran with disk, status := if done then ran.status else 1 })
    { disk }

/-- The last step of a path. -/
def baseName (path : Path) : String :=
  (path.steps.getLast?).getD "/"

end Editor
end FormSnippet
