import Mathlib.Data.List.Nodup
import FormSnippet.Proofs.Screen.Canvas
import FormSnippet.Proofs.Screen.Entries
import FormSnippet.Screen.Paragraph

/-!
# Drawing — where texts, frames and lists are drawn

A line keeps to its area, a frame to the border of its area, a paragraph to the rows of its area,
and an entry of a list to its own rows.  So what is seen in the row of an entry is that entry alone,
and a row without an entry is left as it was; the same holds of lines that are cut off.

- `Line.draw_confined`      : lines
- `drawFrame_confined`      : frames
- `drawParagraph_confined`  : paragraphs
- `drawParagraph_tile?`     : the row of a line
- `drawEntries_tile?`       : the row of an entry
- `drawEntries_spares`      : a row without an entry
-/

namespace FormSnippet
namespace Screen

open Canvas

/-! ## Spans and lines -/

/-- Nothing is written before the column `left`, nor behind the last cluster that fits. -/
theorem Span.drawFrom_confined {area : Area} (style : Style) {y x : Nat} {first : Bool}
    (row : area.y ≤ y ∧ y < area.bottom) (wide : area.x < area.right)
    (reached : area.x ≤ x ∧ x ≤ area.right) (begins : first = true → x = area.x)
    (clusters : List Text.Cluster) :
    Confined (area.contains · ·)
      fun canvas => Span.drawFrom style area.x area.right y x first clusters canvas := by
  have inside (column : Nat) (listed : area.x ≤ column ∧ column < area.right) :
      area.contains column y = true := Area.contains_iff.2 ⟨listed.1, listed.2, row⟩
  -- From cluster to cluster, `x` stays between the sides of the area.
  induction clusters generalizing x first with
  | nil => exact Confined.idle
  | cons cluster rest ih =>
      simp only [Span.drawFrom]
      split
      · exact Confined.idle
      · next fits =>
          have reached' : area.x ≤ x + Text.drawnWidth cluster ∧
              x + Text.drawnWidth cluster ≤ area.right := by omega
          have begun : false = true → x + Text.drawnWidth cluster = area.x := nofun
          have behind := ih reached' begun
          have cleared : Confined (area.contains · ·) fun canvas =>
              canvas.clearRun (x + 1) y (Text.drawnWidth cluster - 1) :=
            clearRun_confined _ fun k listed => inside (x + 1 + k) (by omega)
          -- A cluster is written at `x`, except for marks, which go to the tile before.
          have written : Confined (area.contains · ·) fun canvas =>
              if first then canvas.put x y cluster style
              else if x = area.x then canvas.append x y cluster style
              else if Text.drawnWidth cluster = 0 then canvas.append (x - 1) y cluster style
              else canvas.put x y cluster style := by
            split
            · next opening =>
                have start : x = area.x := begins opening
                exact modifyTile_confined _ (inside x (by omega)) _
            · split
              · exact modifyTile_confined _ (inside x (by omega)) _
              · split
                · exact modifyTile_confined _ (inside (x - 1) (by omega)) _
                · exact modifyTile_confined _ (inside x (by omega)) _
          exact (written.comp cleared).comp behind

theorem Span.draw_confined (span : Span) (area : Area) :
    Confined (area.contains · ·) fun canvas => span.draw area canvas := by
  unfold Span.draw
  split
  · exact Confined.idle
  · next nonempty =>
      rw [Area.isEmpty_iff] at nonempty
      have row : area.y ≤ area.y ∧ area.y < area.bottom := by
        rw [Area.bottom]
        omega
      have columns : area.x < area.right := by
        rw [Area.right]
        omega
      exact drawFrom_confined span.style row columns ⟨Nat.le_refl _, Nat.le_of_lt columns⟩
        (fun _ => rfl) _

theorem Line.draw_confined (line : Line) (area : Area) :
    Confined (area.contains · ·) fun canvas => line.draw area canvas := by
  induction line generalizing area with
  | nil => exact Confined.idle
  | cons span rest ih =>
      simp only [Line.draw]
      split
      · exact ih area
      · have behind := ih (area.indent span.width)
        refine (span.draw_confined area).comp (behind.mono ?_)
        intro x y inside
        rw [Area.contains_iff] at inside ⊢
        simp only [Area.indent, Area.right, Area.bottom] at inside ⊢
        omega

/-! ## Frames -/

/-- The places of an area that a border does not leave. -/
def Area.OnBorder (area : Area) (x y : Nat) : Prop :=
  area.contains x y = true ∧ ¬ area.framed.contains x y = true

theorem drawBorder_confined (area : Area) :
    Confined area.OnBorder fun canvas => drawBorder area canvas := by
  unfold drawBorder
  split
  · exact Confined.idle
  · next nonempty =>
      rw [Area.isEmpty_iff] at nonempty
      apply Confined.foldl
      rintro ⟨x, y, c⟩ side
      -- Every piece lies in an outermost row or column.
      have outermost : (area.x ≤ x ∧ x < area.right ∧ area.y ≤ y ∧ y < area.bottom) ∧
          (x = area.x ∨ x + 1 = area.right ∨ y = area.y ∨ y + 1 = area.bottom) := by
        simp only [List.mem_append, List.mem_map, List.mem_range, List.mem_cons,
          List.not_mem_nil, or_false, Prod.mk.injEq] at side
        rw [Area.right, Area.bottom] at side ⊢
        rcases side with
          ((((⟨_, ⟨j, listed, rfl⟩, rfl, rfl, -⟩ | ⟨_, ⟨j, listed, rfl⟩, rfl, rfl, -⟩) |
            ⟨_, ⟨j, listed, rfl⟩, rfl, rfl, -⟩) | ⟨_, ⟨j, listed, rfl⟩, rfl, rfl, -⟩) |
            ⟨rfl, rfl, -⟩ | ⟨rfl, rfl, -⟩ | ⟨rfl, rfl, -⟩ | ⟨rfl, rfl, -⟩) <;>
          omega
      have inside : area.OnBorder x y := by
        rw [Area.OnBorder, Area.contains_iff, Area.contains_iff]
        simp only [Area.framed, Area.right, Area.bottom] at outermost ⊢
        omega
      exact modifyTile_confined area.OnBorder inside _

theorem drawFrame_confined (title : String) (area : Area) :
    Confined area.OnBorder fun canvas => drawFrame title area canvas := by
  unfold drawFrame
  split
  · exact Confined.idle
  · next nonempty =>
      rw [Area.isEmpty_iff] at nonempty
      have written := (Line.joined title).draw_confined (titleArea area (Line.joined title).width)
      -- The title goes over the upper side.
      refine (drawBorder_confined area).comp (written.mono ?_)
      intro x y inside
      rw [Area.OnBorder]
      rw [Area.contains_iff] at inside ⊢
      rw [Area.contains_iff]
      simp only [titleArea, Area.framed, Area.right, Area.bottom] at inside ⊢
      omega

/-! ## Paragraphs -/

theorem drawGlyphs_confined (y x : Nat) (glyphs : List Glyph) :
    Confined (fun column row => x ≤ column ∧ row = y)
      fun canvas => drawGlyphs y x glyphs canvas := by
  induction glyphs generalizing x with
  | nil => exact Confined.idle
  | cons glyph rest ih =>
      simp only [drawGlyphs]
      split
      · exact ih x
      · have written : Confined (fun column row => x ≤ column ∧ row = y) fun canvas =>
            canvas.put x y glyph.cluster glyph.style :=
          modifyTile_confined (fun column row => x ≤ column ∧ row = y) ⟨Nat.le_refl x, rfl⟩ _
        refine written.comp ((ih _).mono ?_)
        intro column row behind
        exact ⟨Nat.le_trans (Nat.le_add_right _ _) behind.1, behind.2⟩

/-- The rows of an area, from its left side on. -/
def Area.Rows (area : Area) (x y : Nat) : Prop :=
  area.x ≤ x ∧ area.y ≤ y ∧ y < area.bottom

theorem drawParagraph_confined (overflow : Overflow) (lines : List Line) (area : Area) :
    Confined area.Rows fun canvas => drawParagraph overflow lines area canvas := by
  unfold drawParagraph
  split
  · exact Confined.idle
  · unfold drawRows
    apply Confined.foldl
    rintro ⟨row, k⟩ mem
    have listed : k < area.height := by
      have short := (List.mem_zipIdx mem).2.1
      rw [paragraphRows, List.length_take] at short
      omega
    refine (drawGlyphs_confined (area.y + k) area.x row).mono ?_
    rintro x y ⟨behind, rfl⟩
    rw [Area.Rows, Area.bottom]
    omega

/-! ## Lines that are cut off -/

section Clipped

variable {lines : List Line} {area : Area} {x y : Nat}

/-- A line that is cut off makes one row, so the rows are numbered as the lines are. -/
theorem paragraphRows_clip (width height : Nat) (lines : List Line) :
    paragraphRows .clip width height lines =
      (lines.map fun line => clip width line.glyphs).take height := by
  rw [paragraphRows, List.map_eq_flatMap]
  rfl

theorem drawRow_confined (area : Area) (row : List Glyph × Nat) :
    Confined (fun _ y => y = area.y + row.2)
      fun canvas => drawGlyphs (area.y + row.2) area.x row.1 canvas :=
  (drawGlyphs_confined (area.y + row.2) area.x row.1).mono fun _ _ behind => behind.2

/-- In the row of a line nothing else is drawn. -/
theorem drawParagraph_tile? {line : Line} (inside : area.contains x y = true)
    (here : lines[y - area.y]? = some line) (canvas : Canvas) :
    (drawParagraph .clip lines area canvas).tile? x y =
      (drawGlyphs y area.x (clip area.width line.glyphs) canvas).tile? x y := by
  obtain ⟨-, -, below, above⟩ := Area.contains_iff.1 inside
  have place : y = area.y + (y - area.y) := by omega
  have room : y - area.y < area.height := by
    rw [Area.bottom] at above
    omega
  have placed : (clip area.width line.glyphs, y - area.y) ∈
      (paragraphRows .clip area.width area.height lines).zipIdx := by
    rw [List.mem_zipIdx_iff_getElem?, paragraphRows_clip, List.getElem?_take_of_lt room,
      List.getElem?_map, here]
    rfl
  rw [drawParagraph, if_neg (Area.not_isEmpty_of_contains inside), drawRows]
  -- The rows have different numbers, so those before and behind are other rows of the screen.
  rcases List.append_of_mem placed with ⟨before, behind, split⟩
  have numbers :
      ((paragraphRows .clip area.width area.height lines).zipIdx.map Prod.snd).Nodup := by
    rw [List.zipIdx_map_snd]
    exact List.nodup_range'
  rw [split, List.map_append, List.map_cons, List.nodup_middle, List.nodup_cons,
    ← List.map_append] at numbers
  have apart (other : List Glyph × Nat) (mem : other ∈ before ++ behind) :
      ¬ y = area.y + other.2 := by
    intro same
    have number : other.2 = y - area.y := by omega
    exact numbers.1 (List.mem_map.2 ⟨other, mem, number⟩)
  rw [split, foldl_tile? (fun row _ y => y = area.y + row.2)
    (fun other _ => drawRow_confined area other)
    (fun other mem => apart other (List.mem_append_left _ mem))
    (fun other mem => apart other (List.mem_append_right _ mem)), ← place]

/-- A row behind the last line is left as it was. -/
theorem drawParagraph_spares (inside : area.contains x y = true)
    (free : lines[y - area.y]? = none) (canvas : Canvas) :
    (drawParagraph .clip lines area canvas).tile? x y = canvas.tile? x y := by
  rw [drawParagraph, if_neg (Area.not_isEmpty_of_contains inside), drawRows]
  refine foldl_spares (fun row _ y => y = area.y + row.2)
    (fun other _ => drawRow_confined area other) ?_ canvas
  rintro ⟨row, k⟩ mem rfl
  rw [List.mem_zipIdx_iff_getElem?, paragraphRows_clip] at mem
  rw [Nat.add_sub_cancel_left, List.getElem?_eq_none_iff] at free
  have listed : k < lines.length := by
    have short := (List.getElem?_eq_some_iff.1 mem).1
    rw [List.length_take, List.length_map] at short
    omega
  omega

end Clipped

/-! ## Entries -/

/-- The rows of the screen that a placement in the area takes. -/
def Placement.Takes (placement : Placement) (area : Area) : Region :=
  fun _ y => area.y ≤ y ∧ placement.Covers (y - area.y)

theorem drawEntry_confined (area : Area) (highlight : Style) (selected : Option Nat)
    (placement : Placement) :
    Confined (placement.Takes area)
      fun canvas => drawEntry area highlight selected canvas placement := by
  have lines : Confined (placement.Takes area) fun canvas =>
      placement.entry.zipIdx.foldl
        (fun canvas line =>
          line.1.draw { area with y := area.y + placement.row + line.2, height := 1 } canvas)
        canvas := by
    apply Confined.foldl
    rintro ⟨line, k⟩ mem
    have listed : k < placement.entry.length := by
      have short := (List.mem_zipIdx mem).2.1
      omega
    refine (line.draw_confined _).mono ?_
    intro x y inside
    rw [Area.contains_iff] at inside
    simp only [Area.bottom] at inside
    rw [Placement.Takes, Placement.Covers]
    omega
  unfold drawEntry
  dsimp only
  split
  · refine lines.comp ((paint_confined _ highlight).mono ?_)
    intro x y inside
    rw [Area.contains_iff] at inside
    simp only [Area.bottom] at inside
    rw [Placement.Takes, Placement.Covers]
    omega
  · exact lines

section Entries

variable {entries : List Entry} {selected : Option Nat} {area : Area} {x y : Nat}

/-- In the rows of an entry nothing else is drawn. -/
theorem drawEntries_tile? {placement : Placement} (inside : area.contains x y = true)
    (placed : placement ∈ placements entries area.height selected)
    (here : placement.Takes area x y) (highlight : Style) (canvas : Canvas) :
    (drawEntries entries selected highlight area canvas).tile? x y =
      (drawEntry area highlight selected canvas placement).tile? x y := by
  have apart := placements_apart entries area.height selected
  rw [drawEntries, if_neg (Area.not_isEmpty_of_contains inside)]
  -- The placements above end before the row, and those below begin behind it.
  rcases List.append_of_mem placed with ⟨above, below, split⟩
  rw [split] at apart ⊢
  rw [List.pairwise_append, List.pairwise_cons] at apart
  rw [Placement.Takes, Placement.Covers] at here
  apply foldl_tile? fun other => other.Takes area
  · intro other _
    exact drawEntry_confined area highlight selected other
  · intro other mem
    have before := apart.2.2 other mem placement (List.mem_cons_self ..)
    rw [Placement.Takes, Placement.Covers]
    omega
  · intro other mem
    have behind := apart.2.1.1 other mem
    rw [Placement.Takes, Placement.Covers]
    omega

theorem drawEntries_spares
    (free : ∀ placement ∈ placements entries area.height selected, ¬ placement.Takes area x y)
    (highlight : Style) (canvas : Canvas) :
    (drawEntries entries selected highlight area canvas).tile? x y = canvas.tile? x y := by
  rw [drawEntries]
  split
  · rfl
  · apply foldl_spares fun other => other.Takes area
    · intro other _
      exact drawEntry_confined area highlight selected other
    · exact free

end Entries
end Screen
end FormSnippet
