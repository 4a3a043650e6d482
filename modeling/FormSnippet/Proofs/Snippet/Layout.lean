import FormSnippet.Proofs.Snippet.Meaning

/-!
# Layout — the lines of a snippet

The text of a snippet is split at its line feeds.  No name brings one along, since JSON spells a
string without control characters; so the lines are those that the snippet was written in, and their
number depends on three counts alone: the omitted fields, the included ones, and the picked ones
among them.

- `splitOn_compile`   : splitting the text of a snippet gives its lines back
- `NamesAt`           : names that stand in lines of their own
- `lines_laid_out`    : how many lines there are, and what stands in them
-/

namespace FormSnippet

/-! ## The lines of a text -/

namespace Snippet

/-- The line has no line feed in it. -/
def Whole (line : Line) : Prop :=
  '\n' ∉ line

instance (line : Line) : Decidable (Whole line) :=
  inferInstanceAs (Decidable (_ ∉ _))

theorem Whole.append {first second : Line} : Whole first → Whole second →
    Whole (first ++ second) := by
  intro before behind mem
  rcases List.mem_append.1 mem with early | late
  · exact before early
  · exact behind late

theorem whole_quoted (name : String) : Whole (Json.quoteChars name.toList) := by
  intro mem
  have printable : 32 ≤ '\n'.toNat := (Json.quoteChars_spelling name).printable '\n' mem
  exact absurd printable (by decide)

theorem whole_nameLines : ∀ names : List String, ∀ line ∈ nameLines names, Whole line := by
  intro names
  have indent : Whole (List.replicate 16 ' ') := by decide
  have comma : Whole [','] := by decide
  induction names with
  | nil =>
      intro line mem
      cases mem
  | cons name names ih =>
      have quoted : Whole (List.replicate 16 ' ' ++ Json.quoteChars name.toList) :=
        indent.append (whole_quoted name)
      cases names with
      | nil =>
          -- The last name has no comma behind it.
          exact List.forall_mem_singleton.2 quoted
      | cons next rest =>
          exact List.forall_mem_cons.2 ⟨quoted.append comma, ih⟩

theorem whole_openLines : ∀ snippet : Snippet, ∀ line ∈ openLines snippet, Whole line := by
  intro snippet
  have opened : Whole (openCall snippet.options) := by
    unfold openCall
    split <;> decide
  have call : Whole (openCall snippet.options ++ Json.quoteChars snippet.formName.toList) :=
    opened.append (whole_quoted snippet.formName)
  unfold openLines
  dsimp only
  split
  · exact List.forall_mem_singleton.2 (call.append (by decide))
  · have head : Whole (openCall snippet.options ++ Json.quoteChars snippet.formName.toList ++
        ", \x7b".toList) := call.append (by decide)
    have tail : ∀ line ∈ ["        ]".toList, "\x7d);".toList], Whole line := by decide
    have key : Whole "        \"omit\": [".toList := by decide
    simp only [List.forall_mem_append, List.forall_mem_cons] at tail ⊢
    exact ⟨⟨⟨head, key, by simp⟩, whole_nameLines snippet.omitted⟩, tail⟩

theorem whole_frontmatterLines :
    ∀ frontmatter : Frontmatter, ∀ line ∈ frontmatterLines frontmatter, Whole line := by
  intro frontmatter
  cases frontmatter with
  | nothing => decide
  | everything => decide
  | pick names =>
      have before : Whole "  tR += result.asFrontmatterString(\x7b pick: [".toList := by decide
      have after : Whole "] \t\x7d);".toList := by decide
      simp only [frontmatterLines, List.forall_mem_append, List.forall_mem_singleton]
      exact ⟨⟨before, whole_nameLines names⟩, after⟩

theorem whole_lines : ∀ snippet : Snippet, ∀ line ∈ snippet.lines, Whole line := by
  intro snippet
  have fence_ : ∀ line : String, Whole line.toList → Whole (fence snippet.options.fences line) := by
    intro line whole
    unfold fence
    split
    · exact whole
    · exact List.not_mem_nil
  have handle : ∀ line ∈ handleLines snippet.options, Whole line := by
    unfold handleLines
    split <;> decide
  have begins : Whole (fence snippet.options.fences "<% \"---\" %>") := fence_ _ (by decide)
  have ends : Whole (fence snippet.options.fences "<% \"---\" -%>") := fence_ _ (by decide)
  have opened : Whole "<%*".toList := by decide
  have closed : Whole "-%>".toList := by decide
  have none : ∀ line ∈ ([] : List Line), Whole line := by
    intro line mem
    cases mem
  simp only [lines, List.forall_mem_append, List.forall_mem_cons]
  exact ⟨⟨⟨⟨⟨begins, opened, none⟩, handle⟩, whole_openLines snippet⟩,
    whole_frontmatterLines snippet.frontmatter⟩, closed, ends, none⟩

/-- Splitting the text gives back the lines in which the snippet was written. -/
theorem splitOn_compile (formName : String) (fields : List Field) (options : Options) :
    (compile formName fields options).toList.splitOn '\n' =
      (ofFields formName fields options).lines := by
  have written : (ofFields formName fields options).lines ≠ [] := by
    simp [lines]
  calc
    (compile formName fields options).toList.splitOn '\n'
      = (['\n'].intercalate (ofFields formName fields options).lines).splitOn '\n' :=
        congrArg (List.splitOn '\n') (compile_toList formName fields options)
    _ = (ofFields formName fields options).lines :=
        List.splitOn_intercalate '\n' (whole_lines (ofFields formName fields options)) written

/-! ## How many lines there are -/

theorem length_nameLines : ∀ names : List String, (nameLines names).length = names.length := by
  intro names
  induction names with
  | nil => rfl
  | cons name names ih =>
      cases names with
      | nil => rfl
      | cons next rest => exact congrArg (· + 1) ih

theorem length_handleLines (options : Options) :
    (handleLines options).length = if options.globalHandle then 0 else 1 := by
  unfold handleLines
  split <;> rfl

/-- The names that are picked one by one: none where no field is flagged, or every included one. -/
def pickedNames (fields : List Field) : List String :=
  let picked := flaggedNames fields
  if 0 < picked.length ∧ picked.length < (includedFields fields).length then picked else []

end Snippet

/-! ## Names in lines of their own -/

/-- From the line `start` on, each line holds one of the names and nothing else: sixteen spaces, a
string that JSON reads as the name, and a comma unless the name is the last one. -/
def NamesAt (lines : List Snippet.Line) (start : Nat) (names : List String) : Prop :=
  ∀ (i : Nat) (name : String), names[i]? = some name → ∃ quoted,
    lines[start + i]? =
      some (List.replicate 16 ' ' ++ quoted ++ if i + 1 < names.length then [','] else []) ∧
    Json.TextSpelling name quoted ∧
    Json.readValue Json.maxLevels quoted = .ok (.string name, [])

namespace Snippet

theorem length_pickedNames (fields : List Field) :
    (pickedNames fields).length + (if pickedNames fields = [] then 0 else 1) =
      if 0 < (flaggedNames fields).length ∧
          (flaggedNames fields).length < (includedFields fields).length then
        (flaggedNames fields).length + 1
      else 0 := by
  by_cases partly : 0 < (flaggedNames fields).length ∧
      (flaggedNames fields).length < (includedFields fields).length
  · have picked : pickedNames fields = flaggedNames fields := if_pos partly
    have present : pickedNames fields ≠ [] := by
      rw [picked]
      exact List.length_pos_iff.1 partly.1
    rw [if_neg present, if_pos partly, picked]
  · have unpicked : pickedNames fields = [] := if_neg partly
    rw [if_pos unpicked, if_neg partly, unpicked]
    rfl

theorem quoted_reads (name : String) :
    Json.TextSpelling name (Json.quoteChars name.toList) ∧
      Json.readValue Json.maxLevels (Json.quoteChars name.toList) = .ok (.string name, []) := by
  have reads := Json.readValue_quoted Json.maxLevels name []
  rw [List.append_nil] at reads
  exact ⟨Json.quoteChars_spelling name, reads⟩

theorem nameLines_getElem? : ∀ (names : List String) (i : Nat),
    (nameLines names)[i]? = names[i]?.map fun name =>
      List.replicate 16 ' ' ++ Json.quoteChars name.toList ++
        if i + 1 < names.length then [','] else [] := by
  intro names
  induction names with
  | nil =>
      intro i
      rfl
  | cons name names ih =>
      intro i
      cases names with
      | nil =>
          cases i with
          | zero => simp [nameLines]
          | succ i => rfl
      | cons next rest =>
          cases i with
          | zero => simp [nameLines]
          | succ i =>
              -- One line further down there is one name less.
              have shifted : i + 1 + 1 < (name :: next :: rest).length ↔
                  i + 1 < (next :: rest).length := Nat.succ_lt_succ_iff
              simp only [nameLines, List.getElem?_cons_succ, shifted]
              exact ih i

/-- The lines of a list stand where the lines before them end. -/
theorem namesAt_between {lines before after : List Line} {names : List String} {start : Nat}
    (split : lines = before ++ nameLines names ++ after) (starts : before.length = start) :
    NamesAt lines start names := by
  intro i name here
  refine ⟨Json.quoteChars name.toList, ?_, quoted_reads name⟩
  have listed : i < names.length := (List.getElem?_eq_some_iff.1 here).1
  have inside : i < (nameLines names).length := by
    simpa [length_nameLines] using listed
  calc
    lines[start + i]?
      = (nameLines names ++ after)[i]? := by
        rw [split, ← starts, List.append_assoc,
          List.getElem?_append_right (Nat.le_add_right _ _), Nat.add_sub_cancel_left]
    _ = (nameLines names)[i]? := List.getElem?_append_left inside
    _ = some (List.replicate 16 ' ' ++ Json.quoteChars name.toList ++
          if i + 1 < names.length then [','] else []) := by
        simp [nameLines_getElem?, here]

theorem namesAt_nil (lines : List Line) (start : Nat) : NamesAt lines start [] := by
  intro i name here
  cases here

/-! ## The parts of a snippet -/

/-- How the line of the call ends, with the names to omit or without any. -/
def callEnd (omitted : List String) : Line :=
  if omitted = [] then ");".toList else ", \x7b".toList

/-- The call takes one line, and three more beside those of the names to omit. -/
theorem openLines_split : ∀ snippet : Snippet, ∃ before after,
    openLines snippet =
      (openCall snippet.options ++ Json.quoteChars snippet.formName.toList ++
        callEnd snippet.omitted) :: (before ++ nameLines snippet.omitted ++ after) ∧
      before.length = (if snippet.omitted = [] then 0 else 1) ∧
      after.length = (if snippet.omitted = [] then 0 else 2) := by
  intro snippet
  unfold openLines
  dsimp only
  split
  · next nothing =>
      exact ⟨[], [], by simp [nothing, nameLines, callEnd], by simp [nothing], by simp [nothing]⟩
  · next something =>
      have present : snippet.omitted ≠ [] := something
      exact ⟨["        \"omit\": [".toList], ["        ]".toList, "\x7d);".toList],
        by simp [present, callEnd], by simp [present], by simp [present]⟩

/-- The statement takes one line, and one more beside those of the picked names. -/
theorem frontmatterLines_split : ∀ fields : List Field, ∃ first after,
    frontmatterLines (frontmatterOf fields) = first :: (nameLines (pickedNames fields) ++ after) ∧
      after.length = if pickedNames fields = [] then 0 else 1 := by
  intro fields
  have counts : (flaggedNames fields).length =
      ((includedFields fields).filter (·.onFrontmatter)).length := by
    simp [flaggedNames_eq]
  -- Names are picked one by one exactly if there are some, but not all.
  unfold frontmatterOf
  dsimp only
  split
  · next unflagged =>
      have zero : (flaggedNames fields).length = 0 := by
        simp [counts, List.isEmpty_iff.1 unflagged]
      have unpicked : pickedNames fields = [] := by
        simp [pickedNames, zero]
      exact ⟨"  ".toList, [], by simp [frontmatterLines, unpicked, nameLines], by simp [unpicked]⟩
  · next flagged =>
      split
      · next all =>
          have same : (flaggedNames fields).length = (includedFields fields).length :=
            counts.trans all
          have unpicked : pickedNames fields = [] := by
            simp [pickedNames, same]
          exact ⟨"  tR += result.asFrontmatterString();".toList, [],
            by simp [frontmatterLines, unpicked, nameLines], by simp [unpicked]⟩
      · next partly =>
          have more : 0 < (flaggedNames fields).length := by
            rw [counts]
            exact List.length_pos_iff.2 (mt List.isEmpty_iff.2 flagged)
          have fewer : (flaggedNames fields).length < (includedFields fields).length := by
            rw [counts]
            exact lt_of_le_of_ne (List.length_filter_le _ _) partly
          have picked : pickedNames fields = flaggedNames fields := if_pos ⟨more, fewer⟩
          have present : pickedNames fields ≠ [] := by
            rw [picked]
            exact List.length_pos_iff.1 more
          refine ⟨"  tR += result.asFrontmatterString(\x7b pick: [".toList, ["] \t\x7d);".toList],
            ?_, (if_neg present).symm⟩
          rw [picked, flaggedNames_eq]
          rfl

/-- Inside the fences and the marks of the block stand the handle, the call and the statement, the
latter two with their lists of names. -/
theorem lines_split (formName : String) (fields : List Field) (options : Options) :
    ∃ before after first after',
      (ofFields formName fields options).lines =
        fence options.fences "<% \"---\" %>" :: "<%*".toList :: (handleLines options ++
          (openCall options ++ Json.quoteChars formName.toList ++ callEnd (omittedNames fields)) ::
          (before ++ nameLines (omittedNames fields) ++ after ++
          (first :: (nameLines (pickedNames fields) ++ after'))) ++
          ["-%>".toList, fence options.fences "<% \"---\" -%>"]) ∧
      before.length = (if omittedNames fields = [] then 0 else 1) ∧
      after.length = (if omittedNames fields = [] then 0 else 2) ∧
      after'.length = if pickedNames fields = [] then 0 else 1 := by
  rcases openLines_split (ofFields formName fields options) with
    ⟨before, after, opened, lengthBefore, lengthAfter⟩
  rcases frontmatterLines_split fields with ⟨first, after', written, lengthAfter'⟩
  refine ⟨before, after, first, after', ?_, lengthBefore, lengthAfter, lengthAfter'⟩
  have statement : frontmatterLines (ofFields formName fields options).frontmatter =
      first :: (nameLines (pickedNames fields) ++ after') := written
  unfold lines
  rw [opened, statement]
  simp [ofFields]

section Parts

variable {lines handle before after after' : List Line}
  {first second call statement third last : Line} {omitted picked : List String}
  (written : lines = first :: second :: (handle ++
    call :: (before ++ nameLines omitted ++ after ++
      (statement :: (nameLines picked ++ after'))) ++ [third, last]))

include written

theorem framed : lines.head? = some first ∧ lines[1]? = some second ∧
    lines[lines.length - 2]? = some third ∧ lines.getLast? = some last := by
  obtain ⟨inner, framed⟩ : ∃ inner, lines = first :: second :: (inner ++ [third, last]) :=
    ⟨_, written⟩
  have front : lines = (first :: second :: inner) ++ [third, last] := framed
  have place : lines.length - 2 = (first :: second :: inner).length := by
    simp [framed]
  refine ⟨by simp [framed], by simp [framed], ?_, ?_⟩
  · rw [place, front, List.getElem?_append_right (Nat.le_refl _), Nat.sub_self]
    rfl
  · rw [front, List.getLast?_append]
    rfl

theorem called : lines[2 + handle.length]? = some call := by
  rw [written, Nat.add_comm 2]
  simp

theorem namesAt_omitted : NamesAt lines (3 + handle.length + before.length) omitted := by
  have around : lines = (first :: second :: (handle ++ call :: before)) ++ nameLines omitted ++
      (after ++ (statement :: (nameLines picked ++ after')) ++ [third, last]) := by
    simpa using written
  refine namesAt_between around ?_
  simp only [List.length_cons, List.length_append]
  omega

theorem namesAt_picked : NamesAt lines
    (4 + handle.length + (before.length + omitted.length + after.length)) picked := by
  have around : lines = (first :: second :: (handle ++ call :: (before ++ nameLines omitted ++
      after ++ [statement]))) ++ nameLines picked ++ (after' ++ [third, last]) := by
    simpa using written
  refine namesAt_between around ?_
  simp only [List.length_cons, List.length_append, List.length_nil, length_nameLines]
  omega

theorem length_parts : lines.length = 6 + handle.length +
    (before.length + omitted.length + after.length) + (picked.length + after'.length) := by
  simp only [written, List.length_cons, List.length_append, List.length_nil, length_nameLines]
  omega

end Parts

end Snippet

/-! ## The layout -/

open Snippet in
/-- Whatever the names are, the text of a snippet has six lines, one more without the global
handle, three more beside those of the names to omit, and one more beside those of the picked names.
The fences or empty lines stand first and last, the marks of the block next to them, the call with
the form's name in one line, and each listed name in a line of its own, in declared order. -/
theorem lines_laid_out (formName : String) (fields : List Field) (options : Options) :
    let omitted := omittedNames fields
    let included := includedFields fields
    let picked := flaggedNames fields
    let handle := if options.globalHandle then 0 else 1
    let omits := if 0 < omitted.length then omitted.length + 3 else 0
    let picks :=
      if 0 < picked.length ∧ picked.length < included.length then picked.length + 1 else 0
    let lines := (compile formName fields options).toList.splitOn '\n'
    lines.length = 6 + handle + omits + picks ∧
      (lines.head? = some (if options.fences then "<% \"---\" %>".toList else []) ∧
        lines[1]? = some "<%*".toList ∧
        lines[lines.length - 2]? = some "-%>".toList ∧
        lines.getLast? = some (if options.fences then "<% \"---\" -%>".toList else [])) ∧
      (∃ quoted,
        lines[2 + handle]? = some (openCall options ++ quoted ++ callEnd omitted) ∧
        Json.TextSpelling formName quoted ∧
        Json.readValue Json.maxLevels quoted = .ok (.string formName, [])) ∧
      NamesAt lines (4 + handle) omitted ∧
      (0 < picked.length ∧ picked.length < included.length →
        NamesAt lines (4 + handle + omits) picked) := by
  intro omitted included picked handle omits picks lines
  rcases lines_split formName fields options with
    ⟨before, after, first, after', split, lengthBefore, lengthAfter, lengthAfter'⟩
  have lengthHandle : (handleLines options).length = handle := length_handleLines options
  have lengthOmits : before.length + omitted.length + after.length = omits := by
    rw [lengthBefore, lengthAfter]
    by_cases none : omittedNames fields = []
    · simp [omits, omitted, none]
    · have some_ : 0 < omitted.length := List.length_pos_iff.2 none
      simp only [omits, if_pos some_, if_neg none]
      omega
  have lengthPicks : (pickedNames fields).length + after'.length = picks := by
    rw [lengthAfter']
    exact length_pickedNames fields
  have written := (splitOn_compile formName fields options).trans split
  refine ⟨?count, framed written, ?call, ?omitted, ?picked⟩
  case count =>
    rw [← lengthHandle, ← lengthOmits, ← lengthPicks]
    exact length_parts written
  case call =>
    rw [← lengthHandle]
    exact ⟨Json.quoteChars formName.toList, called written, quoted_reads formName⟩
  case omitted =>
    by_cases none : omitted = []
    · rw [none]
      exact namesAt_nil lines (4 + handle)
    · have one : before.length = 1 := lengthBefore.trans (if_neg none)
      have place : 4 + handle = 3 + (handleLines options).length + before.length := by
        omega
      rw [place]
      exact namesAt_omitted written
  case picked =>
    intro partly
    have chosen : pickedNames fields = picked := if_pos partly
    rw [← lengthHandle, ← lengthOmits, ← chosen]
    exact namesAt_picked written

end FormSnippet
