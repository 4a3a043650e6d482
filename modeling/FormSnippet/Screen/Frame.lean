import FormSnippet.Screen.Line

/-!
# Frame — borders with a title

A frame is a border of one tile around an area, with a title on the upper side.  Where the area is
too small for all four sides, a corner goes over a side, the left over the right, and the upper over
the lower.
-/

namespace FormSnippet
namespace Screen

/-- A frame around an area, which must not be empty. -/
def drawBorder (area : Area) (canvas : Canvas) : Canvas :=
  if area.isEmpty then canvas
  else
    let right := area.right - 1
    let bottom := area.bottom - 1
    let columns := (List.range area.width).map (area.x + ·)
    let rows := (List.range area.height).map (area.y + ·)
    let sides : List (Nat × Nat × Char) :=
      rows.map (fun y => (area.x, y, '│')) ++ columns.map (fun x => (x, area.y, '─')) ++
        rows.map (fun y => (right, y, '│')) ++ columns.map (fun x => (x, bottom, '─')) ++
        [(right, bottom, '┘'), (right, area.y, '┐'), (area.x, bottom, '└'), (area.x, area.y, '┌')]
    sides.foldl (fun canvas (x, y, c) => canvas.put x y [c] {}) canvas

/-- The part of the upper side that a title of that width takes. -/
def titleArea (area : Area) (columns : Nat) : Area :=
  { x := area.x + 1
    y := area.y
    width := min columns (area.width - 2)
    height := 1 }

def drawFrame (title : String) (area : Area) (canvas : Canvas) : Canvas :=
  if area.isEmpty then canvas
  else
    let line := Line.joined title
    line.draw (titleArea area line.width) (drawBorder area canvas)

end Screen
end FormSnippet
