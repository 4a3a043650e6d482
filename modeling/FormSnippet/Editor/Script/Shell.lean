import FormSnippet.Editor.Exit
import FormSnippet.Editor.Script.Grammar
import FormSnippet.Editor.Script.Output
import FormSnippet.Editor.Script.Sum

/-!
# Shell — the state of a running script

A shell knows the arguments of its script, variables and functions, and where its output goes.  Its
flow says whether the next command runs at all.

- `Shell.emit`      : output through a descriptor
- `Shell.set?`      : a variable changed
- `Shell.value?`    : the value of a parameter
-/

namespace FormSnippet
namespace Editor
namespace Script

/-! ## Channels -/

/-- Where output goes: to nobody who would look at it, to a file, or to one of the texts that are
being captured. -/
inductive Channel
  | silent
  | file (location : Disk.Location)
  | capture (level : Nat)
  deriving DecidableEq, Repr

/-! ## Flow -/

/-- What happens after a command.  Loops that are left are counted. -/
inductive Flow
  | running
  | breaking (loops : Nat)
  | continuing (loops : Nat)
  | returning
  | ended (exit : Exit)
  deriving DecidableEq, Repr

/-! ## Shells -/

structure Shell where
  disk : Disk
  name : String := "sh"
  arguments : List String := []
  bindings : Sum.Bindings := []
  /-- The variables that other scripts get to see. -/
  exported : List String := []
  readOnly : List String := []
  /-- What the variables of the function that is running were before. -/
  hidden : Option (List (String × Option String)) := none
  functions : List (String × Command) := []
  /-- What is to be done when a signal comes, or with the number zero when the script ends. -/
  traps : List (Nat × String) := []
  /-- What is to be done after the command that is running. -/
  pending : List String := []
  status : Nat := 0
  /-- How the last command in the place of a text has ended. -/
  substituted : Option Nat := none
  input : Bytes := []
  /-- The descriptors that are open for output. -/
  channels : List (Nat × Channel) := [(1, .silent), (2, .silent)]
  captures : List Bytes := []
  /-- The letters of the options that are set. -/
  options : List Char := []
  /-- The directory in which the script was before. -/
  previous : Option Disk.Location := none
  loops : Nat := 0
  flow : Flow := .running

namespace Shell

def isRunning (sh : Shell) : Bool :=
  sh.flow = .running

def finish (sh : Shell) (status : Nat) : Shell :=
  { sh with status }

def finishBool (sh : Shell) (holds : Bool) : Shell :=
  sh.finish (if holds then 0 else 1)

/-- Ends the script because of an error. -/
def abort (sh : Shell) : Shell :=
  { sh with status := 2, flow := .ended (.status 2) }

def hasOption (sh : Shell) (letter : Char) : Bool :=
  sh.options.contains letter

/-! ## Output -/

def channel? (sh : Shell) (descriptor : Nat) : Option Channel :=
  (sh.channels.find? (·.1 = descriptor)).map (·.2)

def setChannel (sh : Shell) (descriptor : Nat) (channel : Option Channel) : Shell :=
  let others := sh.channels.filter (·.1 ≠ descriptor)
  { sh with channels := (channel.map fun c => (descriptor, c)).toList ++ others }

/-- Adds bytes to what went out through a descriptor before; false if it is not open. -/
def emit (sh : Shell) (descriptor : Nat) (bytes : Bytes) : Shell × Bool :=
  match sh.channel? descriptor with
  | none => (sh, bytes.isEmpty)
  | some .silent => (sh, true)
  | some (.capture level) =>
      ({ sh with captures := sh.captures.modify level (· ++ bytes) }, true)
  | some (.file location) =>
      match bytes, sh.disk.entry? location with
      | _ :: _, some (.file content) =>
          let added := ByteArray.mk bytes.toArray
          ({ sh with disk := sh.disk.put location (.file (content ++ added)) }, true)
      | _, _ => (sh, true)

/-- Prints and succeeds if there is somewhere to print to. -/
def print (sh : Shell) (bytes : Bytes) : Shell :=
  let (sh, done) := sh.emit 1 bytes
  sh.finishBool done

/-- Places that take everything and give nothing. -/
def isSilentPlace (name : String) : Bool :=
  ["/dev/null", "/dev/tty", "/dev/stdin", "/dev/stdout", "/dev/stderr"].contains name

/-- The disk with a file for output, which is emptied unless output is added to it, and its
location. -/
def openOutput? (disk : Disk) (appending : Bool) (name : String) : Option (Disk × Disk.Location) :=
  let path : Path := ⟨name⟩
  match appending, disk.lookup path with
  | true, .ok (.file _) => (disk.locate path).toOption.map (disk, ·)
  | _, _ =>
      match disk.write path .empty with
      | .ok disk => (disk.locate path).toOption.map (disk, ·)
      | .error _ => none

/-- Descriptors are written as a single digit; a minus closes one. -/
def isDescriptor (target : String) : Bool :=
  match target.toList with
  | [c] => c = '-' || c.isDigit
  | _ => false

/-- The shell with a redirection in force, or `none` if it is not possible. -/
def redirect? (sh : Shell) (descriptor : Nat) (direction : Direction) (target : String) :
    Option Shell :=
  let withInput (bytes : Bytes) : Shell :=
    if descriptor = 0 then { sh with input := bytes } else sh
  let output (appending : Bool) : Option Shell :=
    if isSilentPlace target then some (sh.setChannel descriptor (some .silent))
    else
      (openOutput? sh.disk appending target).map fun (disk, location) =>
        { sh with disk }.setChannel descriptor (some (.file location))
  match direction with
  | .here => some (withInput (bytesOf target))
  | .read =>
      if isSilentPlace target then some (withInput [])
      else
        match sh.disk.lookup ⟨target⟩ with
        | .ok (.file content) => some (withInput content.toList)
        | .ok .directory => some (withInput [])
        | .error _ => none
  | .write => output false
  | .append => output true
  | .duplicate =>
      if target = "-" then some ((withInput []).setChannel descriptor none)
      else
        match target.toNat? with
        | none => none
        | some 0 => some (sh.setChannel descriptor (some .silent))
        | some other =>
            (sh.channel? other).map fun channel => sh.setChannel descriptor (some channel)

/-- The shell with the channels that it had before redirections of those descriptors. -/
def restore (sh before : Shell) (descriptors : List Nat) : Shell :=
  { sh with
    channels := before.channels
    input := if descriptors.contains 0 then before.input else sh.input }

/-! ## Bindings -/

def get? (sh : Shell) (name : String) : Option String :=
  (sh.bindings.find? (·.1 = name)).map (·.2)

def forget (sh : Shell) (name : String) : Shell :=
  { sh with bindings := sh.bindings.filter (·.1 ≠ name) }

/-- Changes a variable; one that is read-only cannot be changed. -/
def set? (sh : Shell) (name value : String) : Option Shell :=
  if sh.readOnly.contains name then none
  else some { sh with bindings := Sum.assign sh.bindings name value }

def setOrAbort (sh : Shell) (name value : String) : Shell :=
  (sh.set? name value).getD sh.abort

def setOrForget (sh : Shell) (name : String) (value : Option String) : Shell :=
  match value with
  | some value => { sh with bindings := Sum.assign sh.bindings name value }
  | none => sh.forget name

/-- The number by which a script refers to itself. -/
def ownNumber : String :=
  "1000"

/-- The value of a parameter, unless it is all arguments at once. -/
def value? (sh : Shell) (name : String) : Option String :=
  match name with
  | "#" => some (toString sh.arguments.length)
  | "?" => some (toString sh.status)
  | "$" => some ownNumber
  | "!" => none
  | "-" => some (String.ofList sh.options)
  | name =>
      match name.toList.all (·.isDigit), name.toNat? with
      | true, some 0 => some sh.name
      | true, some (n + 1) => sh.arguments[n]?
      | _, _ => sh.get? name

/-- The characters at which what takes the place of a parameter is divided. -/
def separators (sh : Shell) : List Char :=
  ((sh.get? "IFS").getD " \t\n").toList

/-! ## Numbers -/

/-- A number as commands of the shell take it, with blanks around it if it has them. -/
def number? (text : String) : Option Nat :=
  match integer? text with
  | some value => if 0 ≤ value && value < 2147483648 then some value.toNat else none
  | none => none

end Shell
end Script
end Editor
end FormSnippet
