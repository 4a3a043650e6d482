import FormSnippet.Screen.Frame

/-!
# Paragraph — blocks of text

A paragraph is a list of lines, each broken or cut off at the right side of its area; what does not
fit the height is left out.
-/

namespace FormSnippet
namespace Screen

/-- What is done with a line that is too wide. -/
inductive Overflow
  | clip
  | wrap (trim : Bool)
  deriving DecidableEq, Repr

/-- The rows that a line makes. -/
def rowsOf (overflow : Overflow) (limit : Nat) (line : Line) : List (List Glyph) :=
  match overflow with
  | .clip => [clip limit line.glyphs]
  | .wrap trim => wrap trim limit line.glyphs

/-- The rows of a paragraph that are shown in an area of that size. -/
def paragraphRows (overflow : Overflow) (width height : Nat) (lines : List Line) :
    List (List Glyph) :=
  (lines.flatMap (rowsOf overflow width)).take height

def drawRows (area : Area) (rows : List (List Glyph)) (canvas : Canvas) : Canvas :=
  rows.zipIdx.foldl (fun canvas (row, k) => drawGlyphs (area.y + k) area.x row canvas) canvas

def drawParagraph (overflow : Overflow) (lines : List Line) (area : Area) (canvas : Canvas) :
    Canvas :=
  if area.isEmpty then canvas
  else drawRows area (paragraphRows overflow area.width area.height lines) canvas

/-- A text as the lines of a paragraph. -/
def textLines (text : String) : List Line :=
  (Text.blockLines text.toList).map fun line => [{ text := line }]

end Screen
end FormSnippet
