import FormSnippet.Screen.Canvas
import FormSnippet.Text.Blank
import FormSnippet.Text.Lines

/-!
# Line — lines of styled text

A line is a list of spans, each a text in one style.  It is written in one of two ways: span by
span, where marks without a column are added to the tile before them, or glyph by glyph, where they
are left out.  Control characters are never written.

- `Line.draw`       : span by span into an area, cut off at its right side
- `clip`            : the glyphs of a line that fit a width
- `wrap`            : the glyphs of a line broken into lines that fit a width
-/

namespace FormSnippet
namespace Screen

/-- The columns, or rows, of several things side by side. -/
def total (sizes : List Nat) : Nat :=
  sizes.foldr (· + ·) 0

/-! ## Spans -/

structure Span where
  text : List Char
  style : Style := {}
  deriving DecidableEq, Repr

abbrev Line : Type :=
  List Span

namespace Span

def plain (text : String) : Span :=
  { text := text.toList }

def width (span : Span) : Nat :=
  Text.width span.text

/-- Writes clusters in the row `y` from column `x` on, up to column `right`.  The first tile of the
area, in column `left`, takes all clusters up to the first one that has a column; `first` says that
nothing has been written yet. -/
def drawFrom (style : Style) (left right y : Nat) :
    Nat → Bool → List Text.Cluster → Canvas → Canvas
  | _, _, [], canvas => canvas
  | x, first, cluster :: rest, canvas =>
      let columns := Text.drawnWidth cluster
      if x + columns > right then canvas
      else
        let canvas :=
          if first then canvas.put x y cluster style
          else if x = left then canvas.append x y cluster style
          else if columns = 0 then canvas.append (x - 1) y cluster style
          else canvas.put x y cluster style
        drawFrom style left right y (x + columns) false rest
          (canvas.clearRun (x + 1) y (columns - 1))

def draw (span : Span) (area : Area) (canvas : Canvas) : Canvas :=
  if area.isEmpty then canvas
  else
    drawFrom span.style area.x area.right area.y area.x true (Text.shownClusters span.text) canvas

end Span

namespace Line

def plain (text : String) : Line :=
  [.plain text]

/-- The lines of a text, one behind the other. -/
def joined (text : String) : Line :=
  (Text.lines text.toList).map fun line => { text := line }

def width (line : Line) : Nat :=
  total (line.map Span.width)

/-- Writes the spans one behind the other; a span without a column is left out. -/
def draw : Line → Area → Canvas → Canvas
  | [], _, canvas => canvas
  | span :: rest, area, canvas =>
      let columns := span.width
      if columns = 0 then draw rest area canvas
      else draw rest (area.indent columns) (span.draw area canvas)

end Line

/-! ## Glyphs -/

structure Glyph where
  cluster : Text.Cluster
  style : Style := {}
  deriving DecidableEq, Repr

namespace Glyph

def width (glyph : Glyph) : Nat :=
  Text.drawnWidth glyph.cluster

/-- Whether a line may be broken at the glyph.  The no-break space is blank but holds its neighbours
together, and the zero width space is not blank but lets them go. -/
def isBreak (glyph : Glyph) : Bool :=
  glyph.cluster == ['\u200b'] || (glyph.cluster.all Text.isBlank && glyph.cluster != ['\u00a0'])

end Glyph

def Line.glyphs (line : Line) : List Glyph :=
  line.flatMap fun span =>
    (Text.shownClusters span.text).map fun cluster => { cluster, style := span.style }

/-- Writes glyphs in a row from column `x` on; those without a column are left out. -/
def drawGlyphs (y : Nat) : Nat → List Glyph → Canvas → Canvas
  | _, [], canvas => canvas
  | x, glyph :: rest, canvas =>
      let columns := glyph.width
      if columns = 0 then drawGlyphs y x rest canvas
      else drawGlyphs y (x + columns) rest (canvas.put x y glyph.cluster glyph.style)

/-! ## Cutting off -/

/-- The glyphs that fit `room` columns; one that is wider than the whole line is passed over. -/
def clipFrom (limit : Nat) : Nat → List Glyph → List Glyph
  | _, [] => []
  | room, glyph :: rest =>
      let columns := glyph.width
      if columns > limit then clipFrom limit room rest
      else if columns > room then []
      else glyph :: clipFrom limit (room - columns) rest

def clip (limit : Nat) (glyphs : List Glyph) : List Glyph :=
  clipFrom limit limit glyphs

/-! ## Breaking -/

def totalWidth (glyphs : List Glyph) : Nat :=
  total (glyphs.map Glyph.width)

/-- The state of breaking a line: the lines that are done, the line that is being filled, the breaks
behind it, and the word behind those.  The lines done are kept with the last one first. -/
structure Wrapping where
  done : List (List Glyph) := []
  line : List Glyph := []
  breaks : List Glyph := []
  word : List Glyph := []
  afterWord : Bool := false
  deriving Repr

/-- Drops breaks from the front as long as they fit `room` columns. -/
def dropFitting : Nat → List Glyph → List Glyph
  | _, [] => []
  | room, glyph :: rest =>
      if glyph.width > room then glyph :: rest else dropFitting (room - glyph.width) rest

namespace Wrapping

/-- Moves the word to the line, and the breaks before it too, except those that would begin a line
that is trimmed. -/
def settle (trim : Bool) (w : Wrapping) : Wrapping :=
  let line := if w.line.isEmpty && trim then w.line else w.line ++ w.breaks
  { w with
    line := line ++ w.word
    breaks := []
    word := [] }

/-- Whether what waits behind the line has to be moved to it before the next glyph is looked at: a
word has ended, or what waits would fill a whole line by itself. -/
def mustSettle (trim : Bool) (limit : Nat) (w : Wrapping) (glyph : Glyph) : Bool :=
  let columns := glyph.width
  (w.afterWord && glyph.isBreak) ||
    (w.line.isEmpty &&
      if trim then
        totalWidth w.word + columns > limit || totalWidth w.breaks + columns > limit
      else totalWidth w.word + totalWidth w.breaks + columns > limit)

/-- Takes in a glyph.  A line that is full ends, and so does one that the waiting word would
overflow; the breaks that still fit it end with it. -/
def push (trim : Bool) (limit : Nat) (w : Wrapping) (glyph : Glyph) : Wrapping :=
  let columns := glyph.width
  if columns > limit then w
  else
    let w := if w.mustSettle trim limit glyph then w.settle trim else w
    let filled := totalWidth w.line
    let full :=
      filled ≥ limit ||
        (columns > 0 && filled + totalWidth w.breaks + totalWidth w.word ≥ limit)
    let w :=
      if full then
        { w with
          done := w.line :: w.done
          line := []
          breaks := dropFitting (limit - filled) w.breaks }
      else w
    if full && glyph.isBreak && w.breaks.isEmpty then w
    else if glyph.isBreak then
      { w with breaks := w.breaks ++ [glyph], afterWord := false }
    else
      { w with word := w.word ++ [glyph], afterWord := true }

/-- The lines, when all glyphs have been taken in.  Breaks alone make an empty line. -/
def finish (trim : Bool) (w : Wrapping) : List (List Glyph) :=
  let last := (w.settle trim).line
  let done :=
    if w.line.isEmpty && w.word.isEmpty && !w.breaks.isEmpty then [] :: w.done
    else if last.isEmpty then w.done
    else last :: w.done
  if done.isEmpty then [[]] else done.reverse

end Wrapping

/-- Breaks a line into lines of at most `limit` columns; with `trim` no line begins with a break. -/
def wrap (trim : Bool) (limit : Nat) (glyphs : List Glyph) : List (List Glyph) :=
  (glyphs.foldl (Wrapping.push trim limit) {}).finish trim

end Screen
end FormSnippet
