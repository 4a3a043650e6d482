import FormSnippet.Builder
import FormSnippet.CommandLine.Arguments
import FormSnippet.FormsFile

/-!
# Print — a snippet without a session

Print mode opens a builder for the named form, sets it up as the arguments say, and hands out its
snippet.  Names that no field carries are reported and otherwise ignored.

- `Print.form?`     : the form of a name
- `Print.builder`   : the builder after all settings
- `Print.run`       : the snippet with what is to be reported
-/

namespace FormSnippet
namespace CommandLine

namespace Arguments

def options (arguments : Arguments) : Options :=
  { fences := !arguments.noFences
    globalHandle := arguments.globalHandle }

end Arguments

inductive PrintError
  | load (cause : LoadError)
  | unknownForm (name : String)
  deriving DecidableEq, Repr

namespace PrintError

def message : PrintError → String
  | .load cause => cause.message
  | .unknownForm name => "unknown form `" ++ name ++ "`"

def cause? : PrintError → Option String
  | .load cause => cause.cause?
  | .unknownForm _ => none

end PrintError

namespace Print

/-- Of several forms of a name the first one counts. -/
def form? (forms : List Form) (name : String) : Option Form :=
  forms.find? (·.name == name)

/-! ## Setting up -/

/-- Patches fields by their names, one after the other. -/
def patchAll (builder : Builder Unit) (patch : Patch) (names : List String) : Builder Unit :=
  names.foldl (fun builder name => builder.setField name patch) builder

def builder (form : Form) (arguments : Arguments) : Builder Unit :=
  let fresh := (Builder.open form {} ()).setOptions arguments.options
  let marked := if arguments.allFrontmatter then fresh.setAllFrontmatter true else fresh
  patchAll (patchAll marked (.frontmattering true) arguments.frontmatter) (.omitting true)
    arguments.leaveOut

/-- All names that select fields. -/
def names (arguments : Arguments) : List String :=
  arguments.frontmatter ++ arguments.leaveOut

/-- The updates that found no field, and after them the names to be reported. -/
def events (form : Form) (arguments : Arguments) : List Log.Event :=
  let unmatched := form.unmatched (names arguments)
  unmatched.map (Log.Event.ignoredUpdate form.name) ++
    unmatched.map (Log.Event.noSuchField form.name)

/-! ## Printing -/

structure Printed where
  code : String
  formName : String
  unmatched : List String
  events : List Log.Event
  deriving DecidableEq, Repr

def run (forms : List Form) (name : String) (arguments : Arguments) : Except PrintError Printed :=
  match form? forms name with
  | none => .error (.unknownForm name)
  | some form =>
      .ok
        { code := (builder form arguments).code
          formName := form.name
          unmatched := form.unmatched (names arguments)
          events := events form arguments }

end Print
end CommandLine
end FormSnippet
