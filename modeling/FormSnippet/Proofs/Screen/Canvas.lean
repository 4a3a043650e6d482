import FormSnippet.Proofs.Screen.Area
import FormSnippet.Screen.Canvas

/-!
# Canvas — drawings that keep to a region

A drawing function is confined to a region if it leaves every place outside of it as it was, and if
what it makes of a place depends on nothing but the tile that was there.  Of several such drawings
made one after the other, only those count at a place whose regions it lies in.

- `Canvas.tile?`            : the tile at a place
- `Canvas.Confined`         : drawings that keep to a region
- `Canvas.foldl_tile?`      : a place that one of several drawings reaches
- `Canvas.paint_confined`   : painting keeps to its area
-/

namespace FormSnippet
namespace Screen

namespace Canvas

/-! ## Tiles of a canvas -/

/-- The tile at a place, if the place is on the canvas. -/
def tile? (canvas : Canvas) (x y : Nat) : Option Tile :=
  canvas[y]?.bind (·[x]?)

theorem tile?_modifyTile (canvas : Canvas) (x y x' y' : Nat) (f : Tile → Tile) :
    (canvas.modifyTile x y f).tile? x' y' =
      if x = x' ∧ y = y' then (canvas.tile? x' y').map f else canvas.tile? x' y' := by
  rw [tile?, tile?, modifyTile, Array.getElem?_modify]
  by_cases row : y = y'
  · rw [if_pos row]
    cases canvas[y']? with
    | none => simp
    | some tiles =>
        rw [Option.map_some, Option.bind_some, Array.getElem?_modify]
        simp [row]
  · rw [if_neg row, if_neg fun same => row same.2]

/-- A row that is modified step by step is modified as a whole. -/
theorem modify_foldl {α : Type} (canvas : Canvas) (y : Nat) (items : List α)
    (f : Array Tile → α → Array Tile) :
    canvas.modify y (fun row => items.foldl f row) =
      items.foldl (fun canvas item => canvas.modify y (f · item)) canvas := by
  induction items generalizing canvas with
  | nil =>
      apply Array.ext_getElem?
      intro i
      simp [Array.getElem?_modify]
  | cons item items ih =>
      rw [List.foldl_cons, ← ih]
      apply Array.ext_getElem?
      intro i
      simp only [Array.getElem?_modify, List.foldl_cons]
      split
      · rw [Option.map_map]
        rfl
      · rfl

/-! ## Confined drawings -/

/-- Places of the screen, by column and row. -/
abbrev Region : Type :=
  Nat → Nat → Prop

structure Confined (region : Region) (draw : Canvas → Canvas) : Prop where
  spares : ∀ {x y : Nat}, ¬ region x y → ∀ canvas, (draw canvas).tile? x y = canvas.tile? x y
  tilewise : ∀ {x y : Nat} {canvas canvas' : Canvas}, canvas.tile? x y = canvas'.tile? x y →
    (draw canvas).tile? x y = (draw canvas').tile? x y

namespace Confined

variable {region region' : Region} {draw draw' : Canvas → Canvas}

theorem idle : Confined region fun canvas => canvas :=
  ⟨fun _ _ => rfl, fun same => same⟩

theorem mono (confined : Confined region draw) (wider : ∀ x y, region x y → region' x y) :
    Confined region' draw :=
  ⟨fun outside => confined.spares fun inside => outside (wider _ _ inside), confined.tilewise⟩

theorem comp (confined : Confined region draw) (confined' : Confined region draw') :
    Confined region fun canvas => draw' (draw canvas) where
  spares outside canvas := (confined'.spares outside _).trans (confined.spares outside canvas)
  tilewise same := confined'.tilewise (confined.tilewise same)

theorem foldl {α : Type} {f : Canvas → α → Canvas} {items : List α}
    (each : ∀ item ∈ items, Confined region fun canvas => f canvas item) :
    Confined region fun canvas => items.foldl f canvas := by
  induction items with
  | nil => exact idle
  | cons item items ih =>
      have first : Confined region fun canvas => f canvas item := each item (List.mem_cons_self ..)
      exact first.comp (ih fun other mem => each other (List.mem_cons_of_mem _ mem))

end Confined

section Places

variable {α : Type} {f : Canvas → α → Canvas} (region : α → Region) {x y : Nat}

/-- A place that no drawing reaches. -/
theorem foldl_spares {items : List α}
    (each : ∀ item ∈ items, Confined (region item) fun canvas => f canvas item)
    (outside : ∀ item ∈ items, ¬ region item x y) (canvas : Canvas) :
    (items.foldl f canvas).tile? x y = canvas.tile? x y := by
  induction items generalizing canvas with
  | nil => rfl
  | cons item items ih =>
      have rest : (items.foldl f (f canvas item)).tile? x y = (f canvas item).tile? x y :=
        ih (fun other mem => each other (List.mem_cons_of_mem _ mem))
          (fun other mem => outside other (List.mem_cons_of_mem _ mem)) _
      have first : item ∈ item :: items := List.mem_cons_self ..
      exact rest.trans ((each item first).spares (outside item first) canvas)

/-- A place that one of several drawings reaches: the others could be left out. -/
theorem foldl_tile? {before behind : List α} {item : α}
    (each : ∀ other ∈ before ++ item :: behind,
      Confined (region other) fun canvas => f canvas other)
    (outsideBefore : ∀ other ∈ before, ¬ region other x y)
    (outsideBehind : ∀ other ∈ behind, ¬ region other x y) (canvas : Canvas) :
    ((before ++ item :: behind).foldl f canvas).tile? x y = (f canvas item).tile? x y := by
  have eachBefore : ∀ other ∈ before, Confined (region other) fun canvas => f canvas other :=
    fun other mem => each other (List.mem_append_left _ mem)
  have eachBehind : ∀ other ∈ behind, Confined (region other) fun canvas => f canvas other :=
    fun other mem => each other (List.mem_append_right _ (List.mem_cons_of_mem _ mem))
  have own : Confined (region item) fun canvas => f canvas item :=
    each item (List.mem_append_right _ (List.mem_cons_self ..))
  rw [List.foldl_append, List.foldl_cons, foldl_spares region eachBehind outsideBehind]
  exact own.tilewise (foldl_spares region eachBefore outsideBefore canvas)

end Places

/-! ## Drawing tiles -/

section Tiles

variable (region : Region) {x y : Nat}

theorem modifyTile_confined (inside : region x y) (f : Tile → Tile) :
    Confined region fun canvas => canvas.modifyTile x y f where
  spares {x' y'} outside canvas := by
    have elsewhere : ¬ (x = x' ∧ y = y') := by
      rintro ⟨rfl, rfl⟩
      exact outside inside
    rw [tile?_modifyTile, if_neg elsewhere]
  tilewise same := by
    rw [tile?_modifyTile, tile?_modifyTile, same]

theorem clearRun_confined {count : Nat} (inside : ∀ k, k < count → region (x + k) y) :
    Confined region fun canvas => canvas.clearRun x y count := by
  apply Confined.foldl
  intro k mem
  exact modifyTile_confined region (inside k (List.mem_range.1 mem)) _

/-- Painting goes over the tiles of its area one by one. -/
theorem paint_confined (area : Area) (style : Style) :
    Confined (area.contains · ·) fun canvas => canvas.paint area style := by
  apply Confined.foldl
  intro j row
  have below : j < area.height := List.mem_range.1 row
  simp only [modify_foldl]
  apply Confined.foldl
  intro k column
  have right : k < area.width := List.mem_range.1 column
  have inside : area.contains (area.x + k) (area.y + j) = true := by
    rw [Area.contains_iff, Area.right, Area.bottom]
    omega
  exact modifyTile_confined (area.contains · ·) inside _

end Tiles
end Canvas
end Screen
end FormSnippet
