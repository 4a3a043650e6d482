import FormSnippet.Field
import FormSnippet.Json.Quoted

/-!
# Snippet — the text that opens a form

A snippet is a block of Templater source that opens a form and writes some of its results into the
frontmatter.  What it says is held in a `Snippet`; how it is written is `Snippet.lines`, one entry
for each line.

- `Snippet.ofFields`  : what a selection asks for
- `Snippet.lines`     : the lines of the block
- `compile`           : the text of the block for a selection
-/

namespace FormSnippet

structure Options where
  /-- Whether the block stands between two lines that write the frontmatter's fences. -/
  fences : Bool := true
  /-- Whether the form is opened through the global `MF` and not through the plugin's own handle. -/
  globalHandle : Bool := false
  deriving DecidableEq, Repr, Inhabited

/-! ## What a snippet says -/

/-- Which results of the form are written into the frontmatter. -/
inductive Frontmatter
  | nothing
  | everything
  | pick (names : List String)
  deriving DecidableEq, Repr

structure Snippet where
  formName : String
  options : Options
  omitted : List String
  frontmatter : Frontmatter
  deriving DecidableEq, Repr

namespace Snippet

def includedFields (fields : List Field) : List Field :=
  fields.filter (!·.isOmitted)

def omittedNames (fields : List Field) : List String :=
  (fields.filter (·.isOmitted)).map (·.name)

/-- No choice is made where no field is picked, and none is needed where all included ones are. -/
def frontmatterOf (fields : List Field) : Frontmatter :=
  let included := includedFields fields
  let picked := included.filter (·.onFrontmatter)
  if picked.isEmpty then .nothing
  else if picked.length = included.length then .everything
  else .pick (picked.map (·.name))

def ofFields (formName : String) (fields : List Field) (options : Options) : Snippet :=
  { formName
    options
    omitted := omittedNames fields
    frontmatter := frontmatterOf fields }

/-! ## How a snippet is written -/

abbrev Line : Type :=
  List Char

/-- The names of a JSON list, each on a line of its own, with a comma after all but the last. -/
def nameLines : List String → List Line
  | [] => []
  | [name] => [List.replicate 16 ' ' ++ Json.quoteChars name.toList]
  | name :: next :: rest =>
      (List.replicate 16 ' ' ++ Json.quoteChars name.toList ++ [',']) :: nameLines (next :: rest)

def fence (shown : Bool) (line : String) : Line :=
  if shown then line.toList else []

/-- The line that binds the plugin's handle, which the global handle makes needless. -/
def handleLines (options : Options) : List Line :=
  if options.globalHandle then []
  else ["  const modalForm = app.plugins.plugins.modalforms.api;".toList]

def openCall (options : Options) : Line :=
  if options.globalHandle then "  const result = await MF.openForm(".toList
  else "  const result = await modalForm.openForm(".toList

/-- The call that opens the form, with the omitted names as its second argument if there are any. -/
def openLines (snippet : Snippet) : List Line :=
  let call := openCall snippet.options ++ Json.quoteChars snippet.formName.toList
  match snippet.omitted with
  | [] => [call ++ ");".toList]
  | names =>
      [call ++ ", \x7b".toList, "        \"omit\": [".toList] ++ nameLines names ++
        ["        ]".toList, "\x7d);".toList]

/-- The statement that writes the frontmatter. -/
def frontmatterLines : Frontmatter → List Line
  | .nothing => ["  ".toList]
  | .everything => ["  tR += result.asFrontmatterString();".toList]
  | .pick names =>
      ["  tR += result.asFrontmatterString(\x7b pick: [".toList] ++ nameLines names ++
        ["] \t\x7d);".toList]

def lines (snippet : Snippet) : List Line :=
  [fence snippet.options.fences "<% \"---\" %>", "<%*".toList] ++ handleLines snippet.options ++
    openLines snippet ++ frontmatterLines snippet.frontmatter ++
    ["-%>".toList, fence snippet.options.fences "<% \"---\" -%>"]

def chars (snippet : Snippet) : List Char :=
  ['\n'].intercalate snippet.lines

def text (snippet : Snippet) : String :=
  String.ofList snippet.chars

end Snippet

/-- The snippet for a form of that name and a selection of its fields. -/
def compile (formName : String) (fields : List Field) (options : Options) : String :=
  (Snippet.ofFields formName fields options).text

end FormSnippet
