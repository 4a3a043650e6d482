import FormSnippet.Proofs.Disk.Build
import Mathlib.Data.List.Induction

/-!
# Plain — paths that never go up

Steps that never go up lead further down with every name.  On a disk where every entry has its
directory, such a path leads to whatever is in its place, so the making of missing directories does
not bring anything in sight that was there before.

- `Disk.reach_plain`        : the place that plain steps lead to
- `Disk.Tree.walk_back`     : what plain steps lead to later they lead to before, if it is there
- `Disk.Built.blocked_back` : so does a file in their way
- `Disk.exists_back`        : what exists later exists before, or its place was free
-/

namespace FormSnippet
namespace Disk

variable {disk disk' : Disk} {path parent : Path} {location start : Location}

/-- Steps that never go up. -/
def Plain (steps : List String) : Prop :=
  ".." ∉ steps

theorem reach_plain {steps : List String} (plain : Plain steps) (start : Location) :
    reach start steps = start ++ steps.filter (· ≠ ".") := by
  induction steps generalizing start with
  | nil => exact (List.append_nil start).symm
  | cons step steps ih =>
      rw [Plain, List.mem_cons, not_or] at plain
      have rest := ih plain.2 (stepTo start step)
      rw [reach, List.foldl_cons]
      refine rest.trans ?_
      by_cases stay : step = "."
      · simp [stepTo, stay]
      · simp [stepTo, stay, Ne.symm plain.1]

/-- A plain path leads below its parent, unless it stays where it starts. -/
theorem reach_below (known : path.parent? = some parent) (plain : Plain path.steps)
    {upper : List String} (above : upper <+: parent.steps)
    (same : reach start path.steps = reach start upper) : reach start path.steps = start := by
  rcases above with ⟨lower, above⟩
  rcases Path.parent?_steps known with ⟨dots, name, dots', steps, stay, only⟩
  have plain' : Plain upper := by
    intro mem
    apply plain
    rw [steps, ← above]
    simp [mem]
  by_cases unnamed : name = "."
  · have all : ∀ step ∈ path.steps, step = "." := by
      rw [steps, only unnamed]
      intro step mem
      rcases List.mem_cons.1 mem with first | rest
      · exact first.trans unnamed
      · exact stay step (List.mem_append_right _ rest)
    have none : path.steps.filter (· ≠ ".") = [] := by simpa using all
    rw [reach_plain plain, none, List.append_nil]
  · -- The name of the path is one more than the parent has.
    rw [reach_plain plain, reach_plain plain', List.append_cancel_left_eq, steps, ← above] at same
    have more := congrArg List.length same
    simp [unnamed] at more

namespace Tree

variable (tree : disk.Tree)

include tree

/-- The directory of an entry is there. -/
theorem upper {name : String} (present : disk.entry? (location ++ [name]) ≠ none) :
    disk.entry? location = some .directory := by
  have above := tree.above _ present
  cases root : isRoot (location ++ [name]) with
  | false =>
      rw [Disk.above, if_neg (by simp), if_neg (by simp [root]), List.dropLast_concat] at above
      exact above
  | true =>
      -- The outer directories have no other above them.
      have outer : location = [] := by
        have short : (location ++ [name]).length ≤ 1 := by
          simp only [isRoot, Bool.or_eq_true, decide_eq_true_eq] at root
          rcases root with (same | same) | same <;> simp [same]
        simpa using short
      rw [outer]
      exact entry?_root rfl

/-- What plain steps lead to on a disk with more on it, they lead to already if it is there. -/
theorem walk_back {steps : List String} (plain : Plain steps)
    (kept : ∀ location entry, disk.entry? location = some entry →
      disk'.entry? location = some entry)
    (led : disk'.walk start steps = .ok location) (present : disk.entry? location ≠ none) :
    disk.walk start steps = .ok location := by
  -- From the end: where the last step leads to an entry, the directory before it is there too.
  induction steps using List.reverseRecOn generalizing location with
  | nil => exact led
  | append_singleton steps step ih =>
      have plain' : Plain steps ∧ step ≠ ".." := by
        simp only [Plain, List.mem_append, List.mem_singleton, not_or] at plain
        exact ⟨plain.1, Ne.symm plain.2⟩
      rw [walk_append] at led ⊢
      cases first : disk'.walk start steps with
      | error error => rw [first] at led; cases led
      | ok directory =>
          rw [first] at led
          have last : disk'.follow directory step = .ok location :=
            (walk_single step).symm.trans led
          rcases follow_ok last with ⟨here', rfl, proper⟩
          have here : disk.entry? directory = some .directory := by
            by_cases stay : step = "."
            · rw [stepTo, if_pos stay] at present
              rcases Option.ne_none_iff_exists'.1 present with ⟨entry, found⟩
              rw [found, ← here', kept _ _ found]
            · rw [stepTo, if_neg stay, if_neg plain'.2] at present
              exact tree.upper present
          rw [ih plain'.1 first (by simp [here])]
          refine (walk_single step).trans ?_
          rw [Disk.follow, here]
          dsimp only
          split_ifs with dots long
          · rfl
          · have := (proper (by simpa using dots)).1
            omega
          · rfl

end Tree

/-- A walk that meets a file. -/
theorem walk_notDirectory {steps : List String}
    (led : disk.walk start steps = .error .notDirectory) :
    ∃ above step below directory content, steps = above ++ step :: below ∧
      disk.walk start above = .ok directory ∧
      disk.entry? directory = some (.file content) := by
  induction steps generalizing start with
  | nil => cases led
  | cons step steps ih =>
      rw [walk_cons] at led
      cases first : disk.follow start step with
      | error error =>
          rw [first] at led
          cases led
          refine ⟨[], step, steps, start, ?_⟩
          unfold follow at first
          split at first
          · cases first
          · next content here => exact ⟨content, rfl, rfl, here⟩
          · split_ifs at first <;> cases first
      | ok next =>
          rw [first] at led
          rcases ih led with ⟨above, step', below, directory, content, steps', there, here⟩
          refine ⟨step :: above, step', below, directory, content, by rw [steps']; rfl, ?_, here⟩
          rw [walk_cons, first]
          exact there

namespace Built

variable {steps : List String} (tree : disk.Tree) (built : Built start steps disk disk')

include tree built

/-- A file in the way of plain steps is in their way already before directories are made. -/
theorem blocked_back {other : Location} {way : List String} (plain : Plain way)
    (led : disk'.walk other way = .error .notDirectory) :
    disk.walk other way = .error .notDirectory := by
  rcases walk_notDirectory led with ⟨above, step, below, directory, content, rfl, there, here⟩
  have here' := built.file here
  have plain' : Plain above := fun mem => plain (List.mem_append_left _ mem)
  have there' := tree.walk_back plain' (fun _ _ => built.kept) there (by simp [here'])
  rw [walk_append, there', Except.bind, walk_cons, follow, here']
  rfl

end Built

/-- What exists on a disk with more on it exists already, or its place is free. -/
theorem exists_back (tree : disk.Tree)
    (kept : ∀ location entry, disk.entry? location = some entry →
      disk'.entry? location = some entry) (start : disk'.startOf path = disk.startOf path)
    (plain : Plain path.steps) {entry : Entry} (there : disk'.lookup path = .ok entry) :
    disk.exists path = true ∨
      disk.entry? (reach (disk.startOf path) path.steps) = none ∧
        disk'.entry? (reach (disk.startOf path) path.steps) = some entry := by
  rcases lookup_ok there with ⟨checked, location, led', found', slash⟩
  have place : location = reach (disk.startOf path) path.steps := by
    rw [← start]
    exact walk_ok led'
  cases found : disk.entry? location with
  | none => exact .inr ⟨place ▸ found, place ▸ found'⟩
  | some before =>
      obtain rfl : entry = before := by simpa [found'] using kept _ _ found
      rw [route, start] at led'
      have led : disk.route path = .ok location :=
        tree.walk_back plain kept led' (by simp [found])
      left
      rw [«exists», locate_eq checked, led]
      cases ends : path.endsInSlash with
      | false => rfl
      | true => simp [Except.bind, isDirectoryAt, found, slash ends]

end Disk
end FormSnippet
