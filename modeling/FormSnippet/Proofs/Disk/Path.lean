import FormSnippet.Disk.Basic

/-!
# Path — the parent of a path

The parent of a path is found on the text, but directories are found by steps.  The two agree: the
steps of the parent are the first ones of the path, what comes after them is one step and perhaps
some that stay where they are, and both paths begin at the same place.

- `Path.stepsOf`            : the steps of a text
- `Path.trimBack_steps`     : what is trimmed are steps that stay
- `Path.parent?_steps`      : the steps of a parent
- `Path.parent?_absolute`   : both begin at the same place
-/

namespace FormSnippet
namespace Path

/-! ## Steps of a text -/

def stepsOf (text : List Char) : List String :=
  (piecesFrom [] text).filter (· ≠ "")

theorem steps_eq_stepsOf (path : Path) : path.steps = stepsOf path.text.toList :=
  rfl

theorem piecesFrom_append (piece text rest : List Char) :
    piecesFrom piece (text ++ '/' :: rest) = piecesFrom piece text ++ piecesFrom [] rest := by
  induction text generalizing piece with
  | nil => simp [piecesFrom]
  | cons c text ih =>
      rw [List.cons_append, piecesFrom, piecesFrom]
      split
      · rw [ih, List.cons_append]
      · exact ih (c :: piece)

theorem piecesFrom_of_whole (piece text : List Char) (whole : '/' ∉ text) :
    piecesFrom piece text = [String.ofList (piece.reverse ++ text)] := by
  induction text generalizing piece with
  | nil => simp [piecesFrom]
  | cons c text ih =>
      rw [List.mem_cons, not_or] at whole
      rw [piecesFrom, if_neg (Ne.symm whole.1), ih _ whole.2]
      simp

theorem stepsOf_append (text rest : List Char) :
    stepsOf (text ++ '/' :: rest) = stepsOf text ++ stepsOf rest := by
  rw [stepsOf, piecesFrom_append, List.filter_append]
  rfl

/-- A text without slashes is a step, if there is anything to it. -/
theorem stepsOf_of_whole {text : List Char} (whole : '/' ∉ text) (nonempty : text ≠ []) :
    stepsOf text = [String.ofList text] := by
  have named : String.ofList text ≠ "" := by
    intro empty
    exact nonempty (String.ofList_injective empty)
  rw [stepsOf, piecesFrom_of_whole [] text whole]
  simpa using named

theorem stepsOf_slash (text : List Char) : stepsOf (text ++ ['/']) = stepsOf text := by
  rw [stepsOf_append]
  exact List.append_nil _

/-! ## Trimming -/

/-- Nothing but steps that stay is trimmed; the text is read backwards. -/
theorem trimBack_steps (text : List Char) :
    ∃ dots, (∀ step ∈ dots, step = ".") ∧
      stepsOf text.reverse = stepsOf (trimBack text).reverse ++ dots := by
  fun_induction trimBack text with
  | case1 => exact ⟨[], nofun, (List.append_nil _).symm⟩
  | case2 rest longer ih =>
      rcases ih with ⟨dots, stay, same⟩
      refine ⟨dots, stay, ?_⟩
      rw [List.reverse_cons, stepsOf_slash, same]
  | case3 => exact ⟨["."], by simp, by decide⟩
  | case4 rest longer ih =>
      rcases ih with ⟨dots, stay, same⟩
      have stay' : ∀ step ∈ dots ++ ["."], step = "." := by
        intro step mem
        rcases List.mem_append.1 mem with earlier | last
        · exact stay step earlier
        · exact List.mem_singleton.1 last
      refine ⟨dots ++ ["."], stay', ?_⟩
      have back : ('.' :: '/' :: rest).reverse = rest.reverse ++ '/' :: ['.'] := by simp
      rw [back, stepsOf_append, same, List.append_assoc]
      rfl
  | case5 text => exact ⟨[], nofun, (List.append_nil _).symm⟩

theorem trimBack_suffix (text : List Char) : trimBack text <:+ text := by
  fun_induction trimBack text with
  | case1 => exact List.suffix_rfl
  | case2 rest longer ih => exact ih.trans (List.suffix_cons _ _)
  | case3 => exact List.suffix_cons _ _
  | case4 rest longer ih => exact (ih.trans (List.suffix_cons _ _)).trans (List.suffix_cons _ _)
  | case5 text => exact List.suffix_rfl

/-- The character with which a path begins stays. -/
theorem trimBack_getLast? (text : List Char) : (trimBack text).getLast? = text.getLast? := by
  fun_induction trimBack text with
  | case2 rest longer ih =>
      cases rest with
      | nil => exact absurd rfl longer
      | cons c rest => rw [ih, List.getLast?_cons_cons]
  | case4 rest longer ih =>
      cases rest with
      | nil => exact absurd rfl longer
      | cons c rest => rw [ih, List.getLast?_cons_cons, List.getLast?_cons_cons]
  | _ => rfl

/-- What is left ends in a step that does not stay, unless it is a single character. -/
theorem trimBack_ends (text rest : List Char) :
    (trimBack text = '/' :: rest → rest = []) ∧ trimBack text ≠ '.' :: '/' :: rest := by
  fun_induction trimBack text with
  | case1 => simp
  | case2 rest longer ih => exact ih
  | case3 => simp
  | case4 rest longer ih => exact ih
  | case5 text slash slashes dot dots => exact ⟨fun same => absurd same (slashes rest), dots rest⟩

/-! ## Parents -/

/-- A text that begins with a slash, or nothing. -/
theorem head?_dropWhile (text : List Char) :
    text.dropWhile (· ≠ '/') = [] ∨ ∃ rest, text.dropWhile (· ≠ '/') = '/' :: rest := by
  cases split : text.dropWhile (· ≠ '/') with
  | nil => exact .inl rfl
  | cons c rest =>
      have first := List.head?_dropWhile_not (· ≠ '/') text
      rw [split] at first
      obtain rfl : c = '/' := by simpa using first
      exact .inr ⟨rest, rfl⟩

section Parents

variable {path parent : Path} (known : path.parent? = some parent)

include known

/-- Read backwards, the trimmed text of a path with a parent is the name of its own, and then what
the text of the parent is trimmed from. -/
theorem parent?_text :
    ∃ name before, trimBack path.text.toList.reverse = name ++ before ∧
      name ≠ [] ∧ '/' ∉ name ∧ (name = ['.'] → before = []) ∧
      (before = [] ∨ ∃ rest, before = '/' :: rest) ∧
      parent.text.toList = (trimBack before).reverse := by
  have ends := trimBack_ends path.text.toList.reverse
  unfold parent? at known
  split at known
  · cases known
  · cases known
  · next nonempty top =>
      generalize trimBack path.text.toList.reverse = text at *
      cases known
      have parts : text = text.takeWhile (· ≠ '/') ++ text.dropWhile (· ≠ '/') :=
        List.takeWhile_append_dropWhile.symm
      refine ⟨_, _, parts, ?named, ?whole, ?dot, head?_dropWhile text, String.toList_ofList⟩
      case named =>
        cases text with
        | nil => exact absurd rfl nonempty
        | cons c rest =>
            by_cases slash : c = '/'
            · subst slash
              obtain rfl := (ends rest).1 rfl
              exact absurd rfl top
            · simp [slash]
      case whole =>
        intro mem
        have other := List.all_eq_true.1 (List.all_takeWhile (p := (· ≠ '/'))) '/' mem
        simp at other
      case dot =>
        intro dot
        rcases head?_dropWhile text with none | ⟨rest, some⟩
        · exact none
        · rw [dot, some] at parts
          exact absurd parts (ends rest).2

/-- The steps of a path are those of its parent and one more, among steps that stay. -/
theorem parent?_steps :
    ∃ dots name dots', path.steps = parent.steps ++ dots ++ name :: dots' ∧
      (∀ step ∈ dots ++ dots', step = ".") ∧ (name = "." → parent.steps ++ dots = []) := by
  rcases parent?_text known with ⟨name, before, trimmed, nonempty, whole, dot, slash, text⟩
  rcases trimBack_steps path.text.toList.reverse with ⟨dots', stay', steps'⟩
  rcases trimBack_steps before with ⟨dots, stay, steps⟩
  have whole' : '/' ∉ name.reverse := by simpa using whole
  have nonempty' : name.reverse ≠ [] := by simpa using nonempty
  -- The slash before the name, if there is one, separates the steps.
  have split : stepsOf (name ++ before).reverse =
      stepsOf before.reverse ++ [String.ofList name.reverse] := by
    rcases slash with rfl | ⟨rest, rfl⟩
    · rw [List.append_nil, stepsOf_of_whole whole' nonempty']
      rfl
    · have back : (name ++ '/' :: rest).reverse = rest.reverse ++ '/' :: name.reverse := by simp
      rw [back, stepsOf_append, stepsOf_of_whole whole' nonempty', List.reverse_cons, stepsOf_slash]
  refine ⟨dots, String.ofList name.reverse, dots', ?_, ?_, ?_⟩
  · rw [List.reverse_reverse, trimmed, split, steps, ← text] at steps'
    rw [steps_eq_stepsOf, steps', steps_eq_stepsOf]
    simp
  · intro step mem
    rcases List.mem_append.1 mem with first | last
    · exact stay step first
    · exact stay' step last
  · intro same
    have single : name = ['.'] := by
      have : name.reverse = ['.'] := String.ofList_injective same
      simpa using congrArg List.reverse this
    rw [dot single] at steps text
    rw [steps_eq_stepsOf, text, ← steps]
    rfl

/-- A path and its parent begin at the same place. -/
theorem parent?_absolute : parent.isAbsolute = path.isAbsolute := by
  rcases parent?_text known with ⟨name, before, trimmed, -, whole, -, slash, text⟩
  have first : path.text.toList.head? = (name ++ before).getLast? := by
    rw [← trimmed, trimBack_getLast?, List.getLast?_reverse]
  have first' : parent.text.toList.head? = before.getLast? := by
    rw [text, List.head?_reverse, trimBack_getLast?]
  rw [isAbsolute, isAbsolute, first, first']
  rcases slash with rfl | ⟨rest, rfl⟩
  · have inner : name.getLast? ≠ some '/' := by
      intro last
      exact whole (List.mem_of_getLast? last)
    simp [inner]
  · rw [List.getLast?_append, List.getLast?_cons]
    rfl

/-- The text of a path continues that of its parent. -/
theorem parent?_prefix : ∃ rest, rest ≠ "" ∧ path.text = parent.text ++ rest := by
  rcases parent?_text known with ⟨name, before, trimmed, nonempty, -, -, -, text⟩
  rcases trimBack_suffix path.text.toList.reverse with ⟨cut, whole⟩
  rcases trimBack_suffix before with ⟨cut', before'⟩
  have tail : before.reverse = (trimBack before).reverse ++ cut'.reverse := by
    rw [← List.reverse_append, before']
  have chars : path.text.toList =
      parent.text.toList ++ (cut'.reverse ++ name.reverse ++ cut.reverse) := by
    rw [text, ← List.reverse_reverse path.text.toList, ← whole, trimmed]
    simp [tail]
  refine ⟨String.ofList (cut'.reverse ++ name.reverse ++ cut.reverse), ?_, ?_⟩
  · intro empty
    have none := String.ofList_injective empty
    simp [nonempty] at none
  · rw [← String.toList_inj, chars, String.toList_append, String.toList_ofList]

end Parents

end Path
end FormSnippet
