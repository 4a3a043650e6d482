/-!
# Area — rectangles of the screen

An area is given by its upper left corner, its width and its height.  The functions below divide an
area as the views do.

- `Area.framed`       : what a border leaves of an area
- `Area.splitBottom`  : an area without its last rows, and those rows
- `Area.splitColumns` : two fifths on the left, the rest on the right
-/

namespace FormSnippet
namespace Screen

structure Area where
  x : Nat
  y : Nat
  width : Nat
  height : Nat
  deriving DecidableEq, Repr, Inhabited

namespace Area

def empty : Area :=
  ⟨0, 0, 0, 0⟩

def right (area : Area) : Nat :=
  area.x + area.width

def bottom (area : Area) : Nat :=
  area.y + area.height

def isEmpty (area : Area) : Bool :=
  area.width = 0 || area.height = 0

def contains (area : Area) (x y : Nat) : Bool :=
  area.x ≤ x && x < area.right && area.y ≤ y && y < area.bottom

/-- What a border around the area leaves of it. -/
def framed (area : Area) : Area :=
  { x := min (area.x + 1) area.right
    y := min (area.y + 1) area.bottom
    width := area.width - 2
    height := area.height - 2 }

/-- What a border leaves of the area where it is large enough to have both sides of one. -/
def inset (area : Area) : Area :=
  let columns : Area :=
    if 2 ≤ area.width then { area with x := area.x + 1, width := area.width - 2 } else area
  if 2 ≤ columns.height then { columns with y := columns.y + 1, height := columns.height - 2 }
  else columns

/-- The area without its last `rows` rows, and those rows.  Where there is not room for both, the
rows at the bottom come first. -/
def splitBottom (area : Area) (rows : Nat) : Area × Area :=
  let rest := area.height - rows
  ({ area with height := rest },
    { area with y := area.y + rest, height := min rows area.height })

/-- Two fifths of the columns, rounded to the nearest number, and the rest. -/
def splitColumns (area : Area) : Area × Area :=
  let left := (4 * area.width + 5) / 10
  ({ area with width := left }, { area with x := area.x + left, width := area.width - left })

/-- The area without its first `columns` columns. -/
def indent (area : Area) (columns : Nat) : Area :=
  { area with
    x := min (area.x + columns) area.right
    width := area.width - columns }

end Area
end Screen
end FormSnippet
