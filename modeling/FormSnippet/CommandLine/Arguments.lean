import FormSnippet.Text.Control

/-!
# Arguments — what the command line asks for

The arguments are read from left to right.  An option takes a value, which is written behind an
equals sign or is the next argument; a value that is the next argument is taken up only when the
next known option is met, or at the end.  A flag takes no value.  The first thing that is wrong
decides the error.

- `Arguments.parse`     : the arguments, a call for help, or an error
- `UsageError.message`  : the wording
-/

namespace FormSnippet
namespace CommandLine

/-! ## Options and flags -/

inductive ValueOption
  | forms
  | print
  | leaveOut
  | frontmatter
  deriving DecidableEq, Repr

inductive Flag
  | allFrontmatter
  | noFences
  | globalHandle
  | help
  deriving DecidableEq, Repr

namespace ValueOption

/-- The option as it is shown, with the name of its value. -/
def shown : ValueOption → String
  | .forms => "--forms <FORMS>"
  | .print => "--print <FORM>"
  | .leaveOut => "--omit <FIELD>"
  | .frontmatter => "--frontmatter <FIELD>"

end ValueOption

namespace Flag

def shown : Flag → String
  | .allFrontmatter => "--all-frontmatter"
  | .noFences => "--no-fences"
  | .globalHandle => "--global-handle"
  | .help => "--help"

end Flag

/-- What a name behind two hyphens stands for. -/
inductive Known
  | option (option : ValueOption)
  | flag (flag : Flag)
  deriving DecidableEq, Repr

def known? : String → Option Known
  | "forms" => some (.option .forms)
  | "print" => some (.option .print)
  | "omit" => some (.option .leaveOut)
  | "frontmatter" => some (.option .frontmatter)
  | "all-frontmatter" => some (.flag .allFrontmatter)
  | "no-fences" => some (.flag .noFences)
  | "global-handle" => some (.flag .globalHandle)
  | "help" => some (.flag .help)
  | _ => none

/-! ## Errors -/

inductive UsageError
  | unexpected (argument : String)
  | repeated (shown : String)
  | unneededValue (value shown : String)
  | missingValue (option : ValueOption)
  | missingPrint
  deriving DecidableEq, Repr

namespace UsageError

/-- What the user wrote is shown without anything that would control the terminal. -/
def message : UsageError → String
  | .unexpected argument =>
      "unexpected argument '" ++ Text.withoutControls argument ++ "' found"
  | .repeated shown => "the argument '" ++ shown ++ "' cannot be used multiple times"
  | .unneededValue value shown =>
      "unexpected value '" ++ Text.withoutControls value ++ "' for '" ++ shown ++
        "' found; no more were expected"
  | .missingValue option =>
      "a value is required for '" ++ option.shown ++ "' but none was supplied"
  | .missingPrint =>
      "the following required arguments were not provided:\n  " ++ ValueOption.print.shown

end UsageError

/-! ## Arguments -/

structure Arguments where
  forms : Option String := none
  print : Option String := none
  leaveOut : List String := []
  frontmatter : List String := []
  allFrontmatter : Bool := false
  noFences : Bool := false
  globalHandle : Bool := false
  deriving DecidableEq, Repr

/-- Why reading stops before the end. -/
inductive Stopped
  | help
  | refused (error : UsageError)
  deriving DecidableEq, Repr

abbrev Scanned (α : Type) : Type :=
  Except Stopped α

def refuse {α : Type} (error : UsageError) : Scanned α :=
  .error (.refused error)

namespace Arguments

/-- Takes up an option with its value. -/
def accept (arguments : Arguments) (option : ValueOption) (value : String) : Scanned Arguments :=
  match option with
  | .forms =>
      if arguments.forms.isSome then refuse (.repeated option.shown)
      else if value = "" then refuse (.missingValue option)
      else .ok { arguments with forms := some value }
  | .print =>
      if arguments.print.isSome then refuse (.repeated option.shown)
      else .ok { arguments with print := some value }
  | .leaveOut => .ok { arguments with leaveOut := arguments.leaveOut ++ [value] }
  | .frontmatter => .ok { arguments with frontmatter := arguments.frontmatter ++ [value] }

def raise (arguments : Arguments) (flag : Flag) : Scanned Arguments :=
  match flag with
  | .allFrontmatter =>
      if arguments.allFrontmatter then refuse (.repeated flag.shown)
      else .ok { arguments with allFrontmatter := true }
  | .noFences =>
      if arguments.noFences then refuse (.repeated flag.shown)
      else .ok { arguments with noFences := true }
  | .globalHandle =>
      if arguments.globalHandle then refuse (.repeated flag.shown)
      else .ok { arguments with globalHandle := true }
  | .help => .error .help

/-- Selecting fields makes sense only where a snippet is printed. -/
def check (arguments : Arguments) : Scanned Arguments :=
  let selects :=
    !arguments.leaveOut.isEmpty || !arguments.frontmatter.isEmpty || arguments.allFrontmatter
  if selects && arguments.print.isNone then refuse .missingPrint else .ok arguments

end Arguments

/-! ## Reading -/

/-- An option that has not been taken up yet, with its value if that has been met. -/
inductive Pending
  | nothing
  | awaiting (option : ValueOption)
  | complete (option : ValueOption) (value : String)
  deriving DecidableEq, Repr

structure Scan where
  arguments : Arguments := {}
  pending : Pending := .nothing
  deriving DecidableEq, Repr

namespace Scan

/-- Takes up the pending option. -/
def settle (scan : Scan) : Scanned Arguments :=
  match scan.pending with
  | .nothing => .ok scan.arguments
  | .awaiting option => refuse (.missingValue option)
  | .complete option value => scan.arguments.accept option value

/-- An argument with two hyphens in front: its name, and the value behind an equals sign. -/
def long (scan : Scan) (body : List Char) : Scanned Scan :=
  let name := String.ofList (body.takeWhile (· ≠ '='))
  let value :=
    match body.dropWhile (· ≠ '=') with
    | [] => none
    | _ :: value => some (String.ofList value)
  match known? name, value with
  | none, _ => refuse (.unexpected ("--" ++ name))
  | some (.option option), none => do
      let arguments ← scan.settle
      return { arguments, pending := .awaiting option }
  | some (.option option), some value => do
      let arguments ← scan.settle
      let arguments ← arguments.accept option value
      return { arguments }
  | some (.flag flag), none => do
      let arguments ← scan.settle
      let arguments ← arguments.raise flag
      return { arguments }
  | some (.flag flag), some value => refuse (.unneededValue value flag.shown)

/-- An argument with one hyphen in front: only the first letter is looked at. -/
def short (scan : Scan) (letter : Char) : Scanned Scan :=
  if letter = 'h' then do
    let arguments ← scan.settle
    let arguments ← arguments.raise .help
    return { arguments }
  else refuse (.unexpected ("-" ++ String.singleton letter))

/-- An argument without hyphens in front can only be a value. -/
def word (scan : Scan) (text : String) : Scanned Scan :=
  match scan.pending with
  | .awaiting option => .ok { scan with pending := .complete option text }
  | _ => refuse (.unexpected text)

def finish (scan : Scan) : Scanned Arguments := do
  let arguments ← scan.settle
  arguments.check

/-- Two hyphens alone end the options, and nothing may follow them. -/
def afterOptions (scan : Scan) : List String → Scanned Arguments
  | [] => scan.finish
  | text :: _ => refuse (.unexpected text)

def readAll (scan : Scan) : List String → Scanned Arguments
  | [] => scan.finish
  | text :: rest =>
      match text.toList with
      | ['-', '-'] => scan.afterOptions rest
      | '-' :: '-' :: body => do
          let scan ← scan.long body
          scan.readAll rest
      | '-' :: letter :: _ => do
          let scan ← scan.short letter
          scan.readAll rest
      | _ => do
          let scan ← scan.word text
          scan.readAll rest

end Scan

def Arguments.parse (words : List String) : Scanned Arguments :=
  Scan.readAll {} words

end CommandLine
end FormSnippet
