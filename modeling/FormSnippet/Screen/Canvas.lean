import FormSnippet.Screen.Area
import FormSnippet.Screen.Style
import FormSnippet.Text.Width

/-!
# Canvas — a screen of tiles

A canvas is a grid of tiles.  A tile holds the characters that are written at its place, which are
one cluster as a rule, and a style.  A cluster that is wider than one column is written at the
leftmost of its tiles.  Writing beside the canvas has no effect.
-/

namespace FormSnippet
namespace Screen

/-! ## Tiles -/

structure Tile where
  symbol : List Char := []
  style : Style := {}
  deriving DecidableEq, Repr, Inhabited

/-- What is seen of a tile, which is a blank if nothing is written on it. -/
def Tile.shown (tile : Tile) : List Char :=
  if tile.symbol.isEmpty then [' '] else tile.symbol

abbrev Canvas : Type :=
  Array (Array Tile)

namespace Canvas

def blank (width height : Nat) : Canvas :=
  .replicate height (.replicate width {})

def modifyTile (canvas : Canvas) (x y : Nat) (f : Tile → Tile) : Canvas :=
  canvas.modify y fun row => row.modify x f

/-- Writes a symbol; the style of the tile is overlaid. -/
def put (canvas : Canvas) (x y : Nat) (symbol : List Char) (style : Style) : Canvas :=
  canvas.modifyTile x y fun tile => ⟨symbol, tile.style.overlay style⟩

/-- Adds characters to the symbol of a tile. -/
def append (canvas : Canvas) (x y : Nat) (symbol : List Char) (style : Style) : Canvas :=
  canvas.modifyTile x y fun tile => ⟨tile.symbol ++ symbol, tile.style.overlay style⟩

def clear (canvas : Canvas) (x y : Nat) : Canvas :=
  canvas.modifyTile x y fun _ => {}

/-- Clears `count` tiles of a row from column `x` on. -/
def clearRun (canvas : Canvas) (x y count : Nat) : Canvas :=
  (List.range count).foldl (fun canvas k => canvas.clear (x + k) y) canvas

/-- Overlays the style of every tile of an area. -/
def paint (canvas : Canvas) (area : Area) (style : Style) : Canvas :=
  (List.range area.height).foldl
    (fun canvas j =>
      canvas.modify (area.y + j) fun row =>
        (List.range area.width).foldl
          (fun row k =>
            row.modify (area.x + k) fun tile => { tile with style := tile.style.overlay style })
          row)
    canvas

end Canvas
end Screen
end FormSnippet
