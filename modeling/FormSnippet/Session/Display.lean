import FormSnippet.Screen.Entries
import FormSnippet.Screen.Paragraph
import FormSnippet.Session.State

/-!
# Display — the views on the screen

Drawing has two halves.  `Session.arrange` moves the windows on the lists so that the selected entry
is seen, and remembers where the list is; it is all that drawing does to a session.  `Session.draw`
makes the screen from an arranged session.
-/

namespace FormSnippet

open Screen

/-! ## Texts -/

def selectedMarker : String :=
  "▸ "

def unselectedMarker : String :=
  "  "

def marker (isSelected : Bool) : String :=
  if isSelected then selectedMarker else unselectedMarker

def listHelp : String :=
  "↑↓/j k select  Enter/double-click open  e edit forms  q quit"

def builderHelp : String :=
  "Esc back  ↑↓ move  Space omit  f frontmatter  b body  a all  t fences  g global  y copy"

/-- The help text, followed by the status message as long as that is shown. -/
def helpLine (help : String) (status : Option Status) (now : Nat) : String :=
  match status.filter (·.isShown now) with
  | some status => help ++ "  |  " ++ status.text
  | none => help

namespace Form

def entryText (form : Form) : String :=
  form.displayTitle ++ "  [" ++ toString form.fields.length ++ " fields]"

end Form

/-- The text, filled up with spaces to that number of characters. -/
def padRight (text : String) (count : Nat) : String :=
  text ++ String.ofList (List.replicate (count - text.length) ' ')

def checkbox (value : Bool) : String :=
  if value then "[x]" else "[ ]"

namespace Field

def nameStyle (isSelected : Bool) : Style :=
  if isSelected then { foreground := some .blue, bold := true } else {}

/-- A row of the field list: the name with its two checkboxes, or the name crossed out. -/
def line (field : Field) (isSelected : Bool) : Line :=
  let name := (padRight field.name 20).toList
  match field.choice with
  | .included frontmatter body =>
      [.plain (marker isSelected), { text := name, style := nameStyle isSelected },
        .plain (" " ++ checkbox frontmatter ++ " fm"), .plain (" " ++ checkbox body ++ " body")]
  | .omitted =>
      let struck : Style := { foreground := some .darkGray, crossedOut := true }
      [.plain (marker isSelected),
        { text := name, style := (nameStyle isSelected).overlay struck },
        { text := " omitted".toList, style := { foreground := some .darkGray } }]

end Field

/-! ## Areas -/

/-- The areas of the builder view. -/
structure BuilderLayout where
  fields : Area
  caption : Area
  preview : Area
  help : Area

def screenArea (width height : Nat) : Area :=
  ⟨0, 0, width, height⟩

/-- The list above, one row of help below. -/
def listLayout (width height : Nat) : Area × Area :=
  (screenArea width height).splitBottom 1

def builderLayout (width height : Nat) : BuilderLayout :=
  let (content, help) := (screenArea width height).splitBottom 1
  let (left, preview) := content.splitColumns
  let (fields, caption) := left.splitBottom 3
  ⟨fields, caption, preview, help⟩

/-! ## Arranging -/

namespace Workbench

def arrange (bench : Workbench) (width height : Nat) : Workbench :=
  let rows := (builderLayout width height).fields.inset.height
  { bench with scroll := scrollTo bench.scroll bench.selected bench.fields.length rows }

end Workbench

namespace Session

def arrange (session : Session) (width height : Nat) : Session :=
  match session.view with
  | .list =>
      let area := (listLayout width height).1.inset
      { session with
        listArea := area
        scroll :=
          scrollTo session.scroll (session.selected.getD 0) session.forms.length area.height }
  | .builder => { session with workbench := session.workbench.map (·.arrange width height) }
  | .error => session

/-! ## Drawing the list -/

/-- The entries in the window, each with a marker in front. -/
def listEntries (session : Session) : List Entry :=
  let shown := window session.scroll session.listArea.height session.forms
  shown.zipIdx.map fun (form, k) =>
    let text := marker (session.scroll + k = session.selected.getD 0) ++ form.entryText
    textLines text

/-- The selected entry, counted from the beginning of the window. -/
def selectedInWindow (session : Session) : Option Nat :=
  let last := windowEnd session.scroll session.forms.length session.listArea.height
  (session.selected.filter fun index => session.scroll ≤ index && index < last).map
    (· - session.scroll)

def drawHelp (text : String) (area : Area) (canvas : Canvas) : Canvas :=
  drawParagraph .clip (textLines text) area (canvas.paint area { foreground := some .darkGray })

def drawList (session : Session) (now width height : Nat) : Canvas :=
  let (area, help) := listLayout width height
  let title := "Forms (" ++ toString session.forms.length ++ ")"
  let highlight : Style := { foreground := some .white, background := some .blue }
  let canvas := drawFrame title area (.blank width height)
  let canvas :=
    drawEntries session.listEntries session.selectedInWindow highlight area.framed canvas
  drawHelp (helpLine listHelp session.status now) help canvas

/-! ## Drawing the builder -/

def fieldsTitle (options : Options) : String :=
  "Fields  fences:" ++ (if options.fences then "on" else "off") ++ "  handle:" ++
    (if options.globalHandle then "MF" else "api")

/-- The rows of the fields in the window. -/
def fieldLines (bench : Workbench) (height : Nat) : List Line :=
  (window bench.scroll height bench.fields).zipIdx.map fun (field, k) =>
    field.line (bench.scroll + k = bench.selected)

def captionText (session : Session) (bench : Workbench) : String :=
  let field := (session.forms[bench.formIndex]?).bind (·.fields[bench.selected]?)
  (field.map FieldDefinition.caption).getD ""

def previewTitle (session : Session) (bench : Workbench) : String :=
  match session.forms[bench.formIndex]? with
  | some form => "Template: " ++ form.name
  | none => "Template"

def drawBoxed (title : String) (overflow : Overflow) (lines : List Line) (area : Area)
    (canvas : Canvas) : Canvas :=
  drawParagraph overflow lines area.framed (drawFrame title area canvas)

def drawBuilder (session : Session) (bench : Workbench) (now width height : Nat) : Canvas :=
  let layout := builderLayout width height
  let fields := fieldLines bench layout.fields.inset.height
  let canvas :=
    drawBoxed (fieldsTitle bench.model.options) .clip fields layout.fields (.blank width height)
  let canvas :=
    drawBoxed "Field" (.wrap true) (textLines (session.captionText bench)) layout.caption canvas
  let canvas :=
    drawBoxed (session.previewTitle bench) (.wrap false) (textLines bench.preview) layout.preview
      canvas
  drawHelp (helpLine builderHelp bench.status now) layout.help canvas

/-! ## Drawing errors -/

def drawError (message : String) (width height : Nat) : Canvas :=
  let area := screenArea width height
  let canvas := (Canvas.blank width height).paint area { foreground := some .red }
  drawBoxed "Error" (.wrap false) (textLines message) area canvas

/-! ## Drawing -/

def draw (session : Session) (now width height : Nat) : Canvas :=
  match session.view with
  | .list => session.drawList now width height
  | .builder =>
      match session.workbench with
      | some bench => session.drawBuilder bench now width height
      | none => .blank width height
  | .error => drawError (session.errorMessage.getD "unknown error") width height

def render (session : Session) (now width height : Nat) : Session × Canvas :=
  let session := session.arrange width height
  (session, session.draw now width height)

end Session
end FormSnippet
