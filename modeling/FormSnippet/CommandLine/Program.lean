import FormSnippet.CommandLine.Print
import FormSnippet.Log.Line

/-!
# Program — the program from its arguments to its exit

The program reads its arguments, opens the log, and then prints a snippet or starts a session.
Printing goes on without a log that cannot be opened; a session does not.

- `Program.openLog`     : the log file below the home directory
- `Program.run`         : everything up to the start of a session
-/

namespace FormSnippet
namespace CommandLine

/-! ## Texts -/

def helpText : String :=
  "Build Templater snippets that open Modal Forms\n\n" ++
    "Usage: formtpl [OPTIONS]\n\n" ++
    "Options:\n" ++
    "      --forms <FORMS>        Forms file (Modal Forms data.json or a JSON list of forms)\n" ++
    "      --print <FORM>         Print the template for this form and exit instead of starting the TUI\n" ++
    "      --omit <FIELD>         Field to leave out of the form (repeatable)\n" ++
    "      --frontmatter <FIELD>  Field to write into the frontmatter (repeatable)\n" ++
    "      --all-frontmatter      Write every included field into the frontmatter\n" ++
    "      --no-fences            Do not wrap the output in `---` fences\n" ++
    "      --global-handle        Call the global `MF` handle instead of resolving the plugin API\n" ++
    "  -h, --help                 Print help\n"

def usageText (error : UsageError) : String :=
  "error: " ++ error.message ++
    "\n\nUsage: formtpl [OPTIONS]\n\nFor more information, try '--help'.\n"

/-- An error with the one behind it, if there is one. -/
def failureText (message : String) (cause : Option String) : String :=
  "Error: " ++ message ++ "\n" ++
    match cause with
    | some cause => "\nCaused by:\n    " ++ cause ++ "\n"
    | none => ""

def unmatchedText (form name : String) : String :=
  "formtpl: form `" ++ form ++ "` has no field `" ++ name ++ "`\n"

/-! ## Runs -/

structure Environment where
  home : Path
  /-- The filter asked for, if one is. -/
  logFilter : Option String

/-- What a run leaves behind; `log` holds the new lines of the log if there is one. -/
structure Outcome where
  disk : Disk
  code : Nat := 0
  output : String := ""
  errors : String := ""
  log : Option (List String) := none

/-- Where a run ends, or where it hands over to a session. -/
inductive Result
  | finished (outcome : Outcome)
  | session (source : Source) (options : Options) (disk : Disk)

namespace Program

def logDirectory (home : Path) : Path :=
  (appDirectory home).join "log"

def logFile (home : Path) : Path :=
  (logDirectory home).join "formtpl.log"

/-- The log file, with its directories, is made where it is missing. -/
def openLog (disk : Disk) (home : Path) : Disk × Except DiskError Unit :=
  match disk.makeAll (logDirectory home) with
  | (disk, .error cause) => (disk, .error cause)
  | (disk, .ok ()) =>
      match disk.lookup (logFile home) with
      | .ok (.file _) => (disk, .ok ())
      | _ =>
          match disk.write (logFile home) .empty with
          | .ok disk => (disk, .ok ())
          | .error cause => (disk, .error cause)

def source (arguments : Arguments) (home : Path) : Source :=
  match arguments.forms with
  | some path => .explicit ⟨path⟩
  | none => .default home

/-- Print mode, after the log has been opened or not. -/
def print (arguments : Arguments) (name : String) (environment : Environment) (disk : Disk)
    (log : Except DiskError Unit) : Outcome :=
  let warning :=
    match log with
    | .ok () => ""
    | .error cause => "formtpl: logging disabled: " ++ cause.message ++ "\n"
  let lines (events : List Log.Event) : Option (List String) :=
    match log with
    | .ok () => some (Log.lines (.ofSetting environment.logFilter) events)
    | .error _ => none
  let ⟨disk, events, loaded⟩ := (source arguments environment.home).load disk
  let printed : Except PrintError Print.Printed :=
    match loaded with
    | .error cause => .error (.load cause)
    | .ok forms => Print.run forms name arguments
  match printed with
  | .error error =>
      { disk
        code := 1
        errors := warning ++ failureText error.message error.cause?
        log := lines events }
  | .ok printed =>
      { disk
        output := printed.code ++ "\n"
        errors := warning ++ String.join (printed.unmatched.map (unmatchedText printed.formName))
        log := lines (events ++ printed.events) }

def run (words : List String) (environment : Environment) (disk : Disk) : Result :=
  match Arguments.parse words with
  | .error .help => .finished { disk, output := helpText }
  | .error (.refused error) => .finished { disk, code := 2, errors := usageText error }
  | .ok arguments =>
      let (disk, log) := openLog disk environment.home
      match arguments.print, log with
      | some name, log => .finished (print arguments name environment disk log)
      | none, .error cause =>
          .finished { disk, code := 1, errors := failureText cause.message none }
      | none, .ok () =>
          .session (source arguments environment.home) arguments.options disk

end Program
end CommandLine
end FormSnippet
