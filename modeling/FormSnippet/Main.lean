import FormSnippet.CommandLine.Program
import FormSnippet.Editor.Command
import FormSnippet.Session.Run

/-!
# Main — the program at a terminal

The outer layer.  It takes a picture of the part of the disk that a run may look at, runs the
program on the picture, and carries out what the program has added to it.  A session is driven line
by line: the screen is printed, and each character of the next line is a key.
-/

namespace FormSnippet
namespace Terminal

/-! ## The disk -/

def pathOf (location : Disk.Location) : String :=
  match location with
  | "/" :: rest => "/" ++ "/".intercalate rest
  | location => "/".intercalate location

/-- What is found at a place, as far as it can be read. -/
def probe (path : String) : IO (Option Disk.Entry) := do
  try
    return some (.file (← IO.FS.readBinFile path))
  catch
    | .noFileOrDirectory .. => return none
    | _ => return some .directory

/-- Adds the places on the way to a path, and its own, to a picture of the disk. -/
def photograph (disk : Disk) (path : Path) : IO Disk := do
  let start := disk.startOf path
  let steps := path.steps.filter (· ≠ ".")
  let mut disk := disk
  for n in List.range steps.length do
    let location := start ++ steps.take (n + 1)
    match ← probe (pathOf location) with
    | some entry => disk := disk.put location entry
    | none => pure ()
  return disk

/-- Makes what the second picture holds beyond the first. -/
def develop (before after : Disk) : IO Unit := do
  for (location, entry) in after.entries do
    if before.entry? location ≠ some entry then
      match entry with
      | .directory => IO.FS.createDirAll (pathOf location)
      | .file content => IO.FS.writeBinFile (pathOf location) content

/-! ## The log -/

def appendLog (path : Path) (lines : List String) : IO Unit := do
  if !lines.isEmpty then
    let file ← IO.FS.Handle.mk path.text .append
    for line in lines do
      file.putStrLn line

/-! ## Sessions -/

def screenWidth : Nat :=
  80

def screenHeight : Nat :=
  24

def keysOf (line : String) : List Key :=
  match line with
  | "" => [.enter]
  | "esc" => [.escape]
  | "tab" => [.tab]
  | "up" => [.up]
  | "down" => [.down]
  | line => line.toList.map .char

def printScreen (canvas : Screen.Canvas) : IO Unit := do
  for row in canvas do
    IO.println (String.ofList (row.toList.flatMap (·.shown)))

partial def interact (input : IO.FS.Stream) (r : Running) : IO Unit := do
  let now ← IO.monoMsNow
  let (session, canvas) := r.session.render now screenWidth screenHeight
  let r : Running := { session, world := { r.world with now } }
  printScreen canvas
  if r.session.shouldQuit then
    return
  let line ← input.getLine
  if line.isEmpty then
    return
  let next := (keysOf line.trimAsciiEnd.toString).foldl (fun r key => r.step (.key key {})) r
  develop r.world.disk next.world.disk
  interact input next

/-! ## Runs -/

def runProgram (words : List String) : IO UInt32 := do
  let home : Path := ⟨(← IO.getEnv "HOME").getD "."⟩
  let environment : CommandLine.Environment := ⟨home, ← IO.getEnv "RUST_LOG"⟩
  let log := CommandLine.Program.logFile home
  let forms : Path :=
    match CommandLine.Arguments.parse words with
    | .ok arguments => (CommandLine.Program.source arguments home).path
    | .error _ => (Source.default home).path
  let disk ← photograph (← photograph .empty log) forms
  match CommandLine.Program.run words environment disk with
  | .finished outcome =>
      develop disk outcome.disk
      appendLog log (outcome.log.getD [])
      IO.print outcome.output
      IO.eprint outcome.errors
      return outcome.code.toUInt32
  | .session source options after =>
      develop disk after
      let world : World :=
        { disk := after
          editor := ← IO.getEnv "EDITOR"
          clipboardFailure := some "no clipboard"
          now := ← IO.monoMsNow
          bindings := [("HOME", home.text)]
          system := Editor.installed }
      let start := Running.start source options world
      develop after start.world.disk
      interact (← IO.getStdin) start
      return 0

end Terminal
end FormSnippet

def main (words : List String) : IO UInt32 :=
  FormSnippet.Terminal.runProgram words
