import FormSnippet.Disk.Basic
import FormSnippet.Form.Document
import FormSnippet.Log.Event

/-!
# FormsFile — where the forms come from

The forms are read from a file.  At the default location a sample file is made if there is none; a
file that is named on the command line has to exist.  Loading takes four steps, and the first that
fails decides the error: the file is prepared, read, parsed, and must then hold a form.

- `Source.prepare`  : makes the sample file if that is asked for and nothing is there
- `loadForms`       : reads the forms of a path
- `Source.load`     : both
-/

namespace FormSnippet

/-! ## Errors -/

inductive LoadError
  | read (path : Path) (cause : DiskError)
  | write (path : Path) (cause : DiskError)
  | createDirectory (path : Path) (cause : DiskError)
  | parse (path : Path) (cause : DocumentError)
  | noForms (path : Path)
  deriving DecidableEq, Repr

namespace LoadError

def message : LoadError → String
  | .read path cause => "failed to read " ++ path.text ++ ": " ++ cause.message
  | .write path cause => "failed to write " ++ path.text ++ ": " ++ cause.message
  | .createDirectory path cause =>
      "failed to create directory " ++ path.text ++ ": " ++ cause.message
  | .parse path cause => "invalid forms file " ++ path.text ++ ": " ++ cause.message
  | .noForms path => "no forms found in " ++ path.text

/-- The wording of the error behind the error, if there is one. -/
def cause? : LoadError → Option String
  | .read _ cause | .write _ cause | .createDirectory _ cause => some cause.message
  | .parse _ cause => some cause.message
  | .noForms _ => none

end LoadError

/-! ## Sources -/

structure Source where
  path : Path
  createIfMissing : Bool
  deriving DecidableEq, Repr, Inhabited

/-- The directory below a home directory that holds the program's own files. -/
def appDirectory (home : Path) : Path :=
  (home.join ".config").join "formtpl"

namespace Source

def explicit (path : Path) : Source :=
  ⟨path, false⟩

def default (home : Path) : Source :=
  ⟨(appDirectory home).join "forms.json", true⟩

end Source

/-! ## The sample -/

def sampleLines : List String :=
  ["\x7b",
    "  \"formDefinitions\": [",
    "    \x7b",
    "      \"title\": \"New invoice\",",
    "      \"name\": \"Invoice\",",
    "      \"fields\": [",
    "        \x7b \"name\": \"title\", \"label\": \"Title\", \"input\": \x7b \"type\": \"text\" \x7d \x7d,",
    "        \x7b \"name\": \"amount\", \"label\": \"Amount\", \"input\": \x7b \"type\": \"number\" \x7d \x7d,",
    "        \x7b \"name\": \"due\", \"label\": \"Due date\", \"input\": \x7b \"type\": \"date\" \x7d \x7d",
    "      ]",
    "    \x7d,",
    "    \x7b",
    "      \"title\": \"Meeting notes\",",
    "      \"name\": \"Meeting\",",
    "      \"fields\": [",
    "        \x7b \"name\": \"topic\", \"label\": \"Topic\", \"input\": \x7b \"type\": \"text\" \x7d \x7d,",
    "        \x7b \"name\": \"attendees\", \"label\": \"Attendees\", \"input\": \x7b \"type\": \"text\" \x7d \x7d,",
    "        \x7b \"name\": \"summary\", \"label\": \"Summary\", \"input\": \x7b \"type\": \"textarea\" \x7d \x7d",
    "      ]",
    "    \x7d",
    "  ]",
    "\x7d"]

def sampleText : String :=
  String.join (sampleLines.map (· ++ "\n"))

/-! ## Loading -/

/-- The outcome of a step of loading: the disk after it, the events on the way, and the result. -/
structure Loading (α : Type) where
  disk : Disk
  events : List Log.Event
  result : Except LoadError α

/-- Makes the sample file, and before it the directory that it belongs in. -/
def createSample (disk : Disk) (path : Path) : Loading Unit :=
  let made : Disk × Except LoadError Unit :=
    match path.parent? with
    | none => (disk, .ok ())
    | some parent =>
        match disk.makeAll parent with
        | (disk, .ok ()) => (disk, .ok ())
        | (disk, .error cause) => (disk, .error (.createDirectory parent cause))
  match made with
  | (disk, .error error) => ⟨disk, [], .error error⟩
  | (disk, .ok ()) =>
      match disk.write path sampleText.toUTF8 with
      | .error cause => ⟨disk, [], .error (.write path cause)⟩
      | .ok disk => ⟨disk, [.createdSample path.text], .ok ()⟩

def Source.prepare (source : Source) (disk : Disk) : Loading Unit :=
  if source.createIfMissing && !disk.exists source.path then createSample disk source.path
  else ⟨disk, [], .ok ()⟩

/-- The usable forms of a file, with the events of reading them. -/
def loadForms (disk : Disk) (path : Path) : List Log.Event × Except LoadError (List Form) :=
  match disk.read path with
  | .error cause => ([], .error (.read path cause))
  | .ok text =>
      match readDocument text with
      | .error cause => ([], .error (.parse path cause))
      | .ok document =>
          let repeated : List Log.Event :=
            (Form.droppedFields document).map fun (form, field) => .repeatedField form field
          let forms := Form.usable document
          if forms.isEmpty then (repeated, .error (.noForms path))
          else (repeated ++ [.loadedForms path.text forms.length], .ok forms)

def Source.load (source : Source) (disk : Disk) : Loading (List Form) :=
  match source.prepare disk with
  | ⟨disk, events, .error error⟩ => ⟨disk, events, .error error⟩
  | ⟨disk, events, .ok ()⟩ =>
      let (more, result) := loadForms disk source.path
      ⟨disk, events ++ more, result⟩

end FormSnippet
