import FormSnippet.Text.Lines

/-!
# Lines — how many lines a text has, and how the first one begins

A text that does not end with a line feed has one line more than it has line feeds.  What stands at
the beginning of a text stands at the beginning of its first line, unless it belongs to a line end.
-/

namespace FormSnippet
namespace Text

/-- A line feed ends the line that is being read, whatever that holds. -/
theorem linesFrom_feed (line cs : List Char) :
    ∃ first, linesFrom line ('\n' :: cs) = first :: linesFrom [] cs := by
  by_cases ended : ∃ before, line = '\r' :: before
  · rcases ended with ⟨before, rfl⟩
    exact ⟨before.reverse, by rw [linesFrom]⟩
  · refine ⟨line.reverse, ?_⟩
    rw [linesFrom]
    intro before same
    exact ended ⟨before, same⟩

/-- `line` is what has been read of the first line. -/
theorem length_linesFrom {line cs : List Char} (ended : cs.getLast? ≠ some '\n')
    (begun : cs = [] → line ≠ []) : (linesFrom line cs).length = cs.count '\n' + 1 := by
  induction cs generalizing line with
  | nil =>
      have nonempty : line.isEmpty = false := by simpa [List.isEmpty_iff] using begun rfl
      rw [linesFrom, nonempty]
      rfl
  | cons c cs ih =>
      -- What stands behind the first character ends as the whole does.
      have rest : cs.getLast? ≠ some '\n' := by
        cases cs with
        | nil => simp
        | cons d cs => simpa using ended
      by_cases feed : c = '\n'
      · subst feed
        have more : cs ≠ [] := by
          rintro rfl
          exact ended rfl
        have behind : (linesFrom [] cs).length = cs.count '\n' + 1 :=
          ih rest fun empty => absurd empty more
        rcases linesFrom_feed line cs with ⟨first, split⟩
        rw [split, List.length_cons, behind, List.count_cons_self]
      · have behind : (linesFrom (c :: line) cs).length = cs.count '\n' + 1 :=
          ih rest fun _ => List.cons_ne_nil c line
        rw [linesFrom, behind, List.count_cons_of_ne feed]
        exact feed

theorem length_blockLines {cs : List Char} (ended : cs.getLast? ≠ some '\n') :
    (blockLines cs).length = cs.count '\n' + 1 := by
  rw [blockLines]
  split
  · next empty =>
      rw [List.isEmpty_iff.1 empty]
      rfl
  · next nonempty =>
      exact length_linesFrom ended fun empty => absurd (List.isEmpty_iff.2 empty) nonempty

/-- What has been read of a line stays in it, but for a carriage return at the end of it. -/
theorem linesFrom_begins {line : List Char} (solid : line.head? ≠ some '\r') (begun : line ≠ [])
    (more cs : List Char) :
    ∃ behind others, linesFrom (more ++ line) cs = (line.reverse ++ behind) :: others := by
  induction cs generalizing more with
  | nil =>
      exact ⟨more.reverse, [], by simp [linesFrom, begun]⟩
  | cons c cs ih =>
      by_cases feed : c = '\n'
      · subst feed
        by_cases ended : ∃ before, more ++ line = '\r' :: before
        · -- The carriage return has been read behind the line.
          rcases ended with ⟨before, same⟩
          cases more with
          | nil =>
              rw [List.nil_append] at same
              exact absurd (by rw [same]; rfl) solid
          | cons d more =>
              obtain ⟨rfl, rfl⟩ := List.cons.inj same
              exact ⟨more.reverse, linesFrom [] cs, by rw [List.cons_append, linesFrom]; simp⟩
        · refine ⟨more.reverse, linesFrom [] cs, ?_⟩
          rw [linesFrom]
          · simp
          · intro before same
            exact ended ⟨before, same⟩
      · rw [linesFrom]
        · exact ih (c :: more)
        · exact feed

theorem linesFrom_append {first : List Char} (plain : '\n' ∉ first) (line cs : List Char) :
    linesFrom line (first ++ cs) = linesFrom (first.reverse ++ line) cs := by
  induction first generalizing line with
  | nil => rfl
  | cons c first ih =>
      rcases List.ne_and_not_mem_of_not_mem_cons plain with ⟨noFeed, plain⟩
      rw [List.cons_append, linesFrom]
      · rw [ih plain, List.reverse_cons, List.append_assoc]
        rfl
      · exact noFeed.symm

/-- The first line begins as the text does. -/
theorem blockLines_begins {first : List Char} (begun : first ≠ []) (plain : '\n' ∉ first)
    (solid : first.getLast? ≠ some '\r') (cs : List Char) :
    ∃ behind others, blockLines (first ++ cs) = (first ++ behind) :: others := by
  have nonempty : (first ++ cs).isEmpty = false := by simp [begun]
  have solid' : first.reverse.head? ≠ some '\r' := by simpa using solid
  have begun' : first.reverse ≠ [] := by simpa using begun
  rcases linesFrom_begins solid' begun' [] cs with ⟨behind, others, split⟩
  refine ⟨behind, others, ?_⟩
  rw [blockLines, nonempty, lines, linesFrom_append plain, List.append_nil]
  simpa using split

end Text
end FormSnippet
