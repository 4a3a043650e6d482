import FormSnippet.Proofs.Disk.Walk

/-!
# Build — a directory made together with its ancestors

Making a directory with its ancestors goes up the path as far as directories are missing, and then
makes them on the way down.  Whatever is made is a missing directory on the way, and everything else
stays.  Where all goes well the path leads to a directory, and nothing is left to be made.  Where it
does not, the same failure is met when the same is tried again, but for one case: a file in the way
is reported as such only as long as the directories above it are missing.

- `Disk.Built`              : missing directories on the way have been made
- `Disk.makeAll_built`      : nothing else changes
- `Disk.makeAllFuel_leads`  : where all goes well the path leads to a directory
- `Disk.makeAll_again`      : a second attempt after a success
- `Disk.makeAll_fails_again`: a second attempt after a failure
-/

namespace FormSnippet
namespace Disk

variable {disk disk' disk'' : Disk} {path parent : Path} {location start : Location}

/-! ## What is made -/

/-- Some directories have been made that were missing on the way of the steps. -/
structure Built (start : Location) (steps : List String) (disk disk' : Disk) : Prop where
  current : disk'.current = disk.current
  entries : ∀ location, disk'.entry? location = disk.entry? location ∨
    disk.entry? location = none ∧ disk'.entry? location = some .directory ∧
      ∃ upper, upper <+: steps ∧ location = reach start upper
  tree : disk.Tree → disk'.Tree

namespace Built

variable {steps lower : List String}

theorem refl (start : Location) (steps : List String) (disk : Disk) : Built start steps disk disk :=
  ⟨rfl, fun _ => .inl rfl, id⟩

theorem trans (first : Built start steps disk disk') (second : Built start steps disk' disk'') :
    Built start steps disk disk'' := by
  refine ⟨second.current.trans first.current, ?_, second.tree ∘ first.tree⟩
  intro location
  rcases first.entries location with same | ⟨missing, made, upper, above, leads⟩
  · rw [← same]
    exact second.entries location
  · right
    rcases second.entries location with same | ⟨missing', -⟩
    · exact ⟨missing, same.trans made, upper, above, leads⟩
    · rw [made] at missing'
      cases missing'

/-- Directories on the way of the first steps are on the way of all. -/
theorem extend (built : Built start steps disk disk') :
    Built start (steps ++ lower) disk disk' := by
  refine ⟨built.current, ?_, built.tree⟩
  intro location
  rcases built.entries location with same | ⟨missing, made, upper, above, leads⟩
  · exact .inl same
  · exact .inr ⟨missing, made, upper, above.trans (List.prefix_append _ _), leads⟩

theorem grown (built : Built start steps disk disk') : Grown disk disk' := by
  constructor
  · intro location here
    rcases built.entries location with same | ⟨-, made, -⟩
    · rw [same, here]
    · exact made
  · intro location here
    rcases built.entries location with same | ⟨missing, -⟩
    · rw [same]
      exact here
    · exact absurd missing here

theorem startOf (built : Built start steps disk disk') (path : Path) :
    disk'.startOf path = disk.startOf path := by
  rw [Disk.startOf, Disk.startOf, built.current]

theorem kept (built : Built start steps disk disk') {entry : Entry}
    (here : disk.entry? location = some entry) : disk'.entry? location = some entry := by
  rcases built.entries location with same | ⟨missing, -⟩
  · rw [same, here]
  · rw [here] at missing
    cases missing

/-- Files are not made. -/
theorem file (built : Built start steps disk disk') {content : ByteArray}
    (here : disk'.entry? location = some (.file content)) :
    disk.entry? location = some (.file content) := by
  rcases built.entries location with same | ⟨-, made, -⟩
  · rw [← same, here]
  · rw [made] at here
    cases here

end Built

theorem makeDirectory_built (made : disk.makeDirectory path = .ok disk') :
    Built (disk.startOf path) path.steps disk disk' := by
  rcases makeDirectory_ok made with ⟨missing, above, rfl, -, -⟩
  have free : disk.entry? (reach (disk.startOf path) path.steps) ≠ some .directory := by
    simp [missing]
  refine ⟨rfl, ?_, fun tree => tree.put _ free above⟩
  intro location
  by_cases same : location = reach (disk.startOf path) path.steps
  · subst same
    exact .inr ⟨missing, entry?_put_self _ (isRoot_eq_false free), path.steps, List.prefix_rfl,
      rfl⟩
  · exact .inl (entry?_put_of_ne _ same)

theorem makeUnlessThere_built :
    Built (disk.startOf path) path.steps disk (disk.makeUnlessThere path).1 := by
  unfold makeUnlessThere
  split
  · next made => exact makeDirectory_built made
  · exact .refl _ _ _

theorem startOf_parent (known : path.parent? = some parent) (disk : Disk) :
    disk.startOf parent = disk.startOf path := by
  rw [startOf, startOf, Path.parent?_absolute known]

/-- The steps of a path begin with those of its parent. -/
theorem steps_parent (known : path.parent? = some parent) :
    ∃ lower, lower ≠ [] ∧ path.steps = parent.steps ++ lower := by
  rcases Path.parent?_steps known with ⟨dots, name, dots', steps, -, -⟩
  exact ⟨dots ++ name :: dots', by simp, by rw [steps, List.append_assoc]⟩

/-- What is made on the way of the parent is made on the way of the path. -/
theorem Built.of_parent (known : path.parent? = some parent)
    (built : Built (disk.startOf parent) parent.steps disk disk') :
    Built (disk.startOf path) path.steps disk disk' := by
  rcases steps_parent known with ⟨lower, -, steps⟩
  rw [steps, ← startOf_parent known]
  exact built.extend

theorem makeAllFuel_built (fuel : Nat) :
    Built (disk.startOf path) path.steps disk (makeAllFuel fuel disk path).1 := by
  induction fuel generalizing disk path with
  | zero => exact .refl _ _ _
  | succ fuel ih =>
      rw [makeAllFuel]
      cases known : path.parent? with
      | none => exact .refl _ _ _
      | some parent =>
          dsimp only
          split
          · next made => exact makeDirectory_built made
          · -- The ancestors come first, and the directory itself after them.
            have above : Built (disk.startOf path) path.steps disk (makeAllFuel fuel disk parent).1 :=
              Built.of_parent known ih
            split
            · next disk' tried =>
                rw [tried] at above
                have last : Built (disk'.startOf path) path.steps disk' (disk'.makeUnlessThere path).1 :=
                  makeUnlessThere_built
                rw [above.startOf] at last
                exact above.trans last
            · next disk' error tried =>
                rw [tried] at above
                exact above
          · exact .refl _ _ _

theorem makeAll_built (disk : Disk) (path : Path) :
    Built (disk.startOf path) path.steps disk (disk.makeAll path).1 :=
  makeAllFuel_built _

/-! ## Where all goes well -/

/-- Nothing is wrong with the text of a parent, unless it is empty. -/
theorem checked_parent (known : path.parent? = some parent) (checked : checkPath path = .ok ())
    (nonempty : parent.text ≠ "") : checkPath parent = .ok () := by
  rcases Path.parent?_prefix known with ⟨rest, -, text⟩
  rw [checkPath, text] at checked
  split_ifs at checked with nul empty long
  rw [String.toList_append, List.contains_append, Bool.or_eq_true, not_or] at nul
  rw [String.utf8ByteSize_append] at long
  rw [checkPath, if_neg nul.1, if_neg nonempty, if_neg (by omega)]

theorem length_parent (known : path.parent? = some parent) :
    parent.text.length < path.text.length := by
  rcases Path.parent?_prefix known with ⟨rest, nonempty, text⟩
  have more : rest.length ≠ 0 := fun none => nonempty (String.length_eq_zero_iff.1 none)
  rw [text, String.length_append]
  omega

/-- A path with a parent is not empty. -/
theorem text_of_parent (known : path.parent? = some parent) : path.text ≠ "" := by
  intro empty
  have none : (⟨""⟩ : Path).parent? = none := by decide
  rw [← empty] at none
  rw [none] at known
  cases known

theorem makeUnlessThere_leads (checked : checkPath path = .ok ())
    (made : disk.makeUnlessThere path = (disk', .ok ())) : disk'.Leads path := by
  unfold makeUnlessThere at made
  split at made
  · next new =>
      cases made
      exact makeDirectory_leads new
  · split_ifs at made with there
    · cases made
      exact (isDirectory_iff checked).1 there
    · cases made

theorem makeAllFuel_leads (known : path.parent? = some parent) (checked : checkPath path = .ok ())
    {fuel : Nat} (made : makeAllFuel (fuel + 1) disk path = (disk', .ok ())) :
    disk'.Leads path := by
  rw [makeAllFuel, known] at made
  dsimp only at made
  split at made
  · next new =>
      cases made
      exact makeDirectory_leads new
  · split at made
    · exact makeUnlessThere_leads checked made
    · cases made
  · split_ifs at made with there
    · cases made
      exact (isDirectory_iff checked).1 there
    · cases made

/-- Nothing is left to be made where the path leads to a directory. -/
theorem makeAllFuel_of_leads (checked : checkPath path = .ok ()) (leads : disk.Leads path)
    (fuel : Nat) : makeAllFuel fuel disk path = (disk, .ok ()) := by
  rcases leads with ⟨location, led, here⟩
  cases fuel with
  | zero => rfl
  | succ fuel =>
      rw [makeAllFuel]
      cases path.parent? with
      | none => rfl
      | some parent =>
          dsimp only
          rw [makeDirectory_of_ok checked led]
          dsimp only
          rw [if_pos ((isDirectory_iff checked).2 ⟨location, led, here⟩)]

/-- A second attempt after a success. -/
theorem makeAllFuel_again (checked : path.text ≠ "" → checkPath path = .ok ()) {fuel : Nat}
    (made : makeAllFuel (fuel + 1) disk path = (disk', .ok ())) :
    makeAllFuel (fuel + 1) disk' path = (disk', .ok ()) := by
  cases known : path.parent? with
  | none =>
      rw [makeAllFuel, known]
  | some parent =>
      have checked' := checked (text_of_parent known)
      exact makeAllFuel_of_leads checked' (makeAllFuel_leads known checked' made) _

/-! ## Where it does not -/

/-- How making a directory with its ancestors has failed, as the disk shows it afterwards. -/
inductive Failure (fuel : Nat) (disk : Disk) (path : Path) : DiskError → Prop
  /-- There is a file in its place. -/
  | occupied (location : Location) (content : ByteArray) (led : disk.route path = .ok location)
      (file : disk.entry? location = some (.file content)) : Failure fuel disk path .exists
  /-- The path does not lead anywhere, for the same reason. -/
  | broken (error : DiskError) (led : disk.route path = .error error)
      (other : error ≠ .notFound) : Failure fuel disk path error
  /-- There was a file in the way, below a directory that was missing. -/
  | blocked (led : disk.route path = .error .notDirectory) : Failure fuel disk path .exists
  | missing (error : DiskError) (led : disk.route path = .error .notFound)
      (again : makeAllFuel fuel disk path = (disk, .error error)) : Failure fuel disk path error

namespace Failure

variable {fuel : Nat} {error : DiskError}

/-- A failure of the last step. -/
theorem of_makeDirectory (tree : disk.Tree) (checked : checkPath path = .ok ())
    (failed : disk.makeDirectory path = .error error) (nowhere : ¬ disk.Leads path)
    (again : makeAllFuel fuel disk path = (disk, .error error)) :
    Failure fuel disk path error := by
  cases led : disk.route path with
  | ok location =>
      rw [makeDirectory_of_ok checked led] at failed
      cases failed
      rcases Option.ne_none_iff_exists'.1 (tree.route_present led) with ⟨_ | content, here⟩
      · exact absurd ⟨location, led, here⟩ nowhere
      · exact .occupied location content led here
  | error error' =>
      by_cases absent : error' = .notFound
      · subst absent
        exact .missing error led again
      · rw [makeDirectory_of_error checked led absent] at failed
        cases failed
        exact .broken error led absent

/-- A failure above the path is one of the path. -/
theorem of_parent (known : path.parent? = some parent) (checked : checkPath path = .ok ())
    (above : Failure fuel disk parent error) : Failure (fuel + 1) disk path error := by
  rcases steps_parent known with ⟨lower, more, steps⟩
  have start := startOf_parent known disk
  have led (location : Except DiskError Location) (above : disk.route parent = location) :
      disk.route path = location.bind fun location => disk.walk location lower := by
    rw [route, steps, walk_append, ← start, ← above]
    rfl
  cases above with
  | occupied location content there file =>
      refine .blocked ((led _ there).trans ?_)
      cases lower with
      | nil => exact absurd rfl more
      | cons step lower =>
          rw [Except.bind, walk_cons, follow, file]
          rfl
  | broken _ there other =>
      exact .broken error (led _ there) other
  | blocked there => exact .blocked (led _ there)
  | missing _ there again =>
      have first : disk.makeDirectory path = .error .notFound := by
        refine makeDirectory_of_above checked steps more ?_
        rw [← start]
        exact there
      refine .missing error (led _ there) ?_
      rw [makeAllFuel, known]
      dsimp only
      rw [first]
      dsimp only
      rw [again]

end Failure

theorem makeUnlessThere_error (checked : checkPath path = .ok ()) {error : DiskError}
    (failed : disk.makeUnlessThere path = (disk', .error error)) :
    disk' = disk ∧ disk.makeDirectory path = .error error ∧ ¬ disk.Leads path := by
  unfold makeUnlessThere at failed
  split at failed
  · cases failed
  · next error' first =>
      split_ifs at failed with there
      · cases failed
      · cases failed
        exact ⟨rfl, first, fun leads => there ((isDirectory_iff checked).2 leads)⟩

/-- An attempt where the ancestors are there already, but the directory cannot be made. -/
theorem makeAllFuel_fails (known : path.parent? = some parent) {fuel : Nat}
    (ready : makeAllFuel fuel disk parent = (disk, .ok ())) {error : DiskError}
    (failed : disk.makeDirectory path = .error error) (nowhere : disk.isDirectory path = false) :
    makeAllFuel (fuel + 1) disk path = (disk, .error error) := by
  rw [makeAllFuel, known]
  dsimp only
  rw [failed]
  cases error <;> simp [ready, makeUnlessThere, failed, nowhere]

theorem makeAllFuel_failure (tree : disk.Tree) {fuel : Nat} (enough : path.text.length < fuel)
    (checked : path.text ≠ "" → checkPath path = .ok ()) {error : DiskError}
    (failed : makeAllFuel fuel disk path = (disk', .error error)) :
    Failure fuel disk' path error := by
  induction fuel generalizing disk path with
  | zero => omega
  | succ fuel ih =>
      cases known : path.parent? with
      | none =>
          rw [makeAllFuel, known] at failed
          cases failed
      | some parent =>
          have checked := checked (text_of_parent known)
          have shorter : parent.text.length < fuel := by
            have := length_parent known
            omega
          have first := failed
          rw [makeAllFuel, known] at first
          dsimp only at first
          split at first
          · cases first
          · split at first
            · -- The ancestors have been made, so the failure is of the last step.
              next above tried =>
              rcases makeUnlessThere_error checked first with ⟨rfl, last, nowhere⟩
              have tree' : disk'.Tree := by
                have built : Built (disk.startOf parent) parent.steps disk (makeAllFuel fuel disk parent).1 :=
                  makeAllFuel_built fuel
                rw [tried] at built
                exact built.tree tree
              have ready : makeAllFuel fuel disk' parent = (disk', .ok ()) := by
                cases fuel with
                | zero => omega
                | succ fuel => exact makeAllFuel_again (checked_parent known checked) tried
              have nowhere' : disk'.isDirectory path = false := by
                rw [← Bool.not_eq_true, isDirectory_iff checked]
                exact nowhere
              exact .of_makeDirectory tree' checked last nowhere
                (makeAllFuel_fails known ready last nowhere')
            · next above error' tried =>
              cases first
              exact .of_parent known checked (ih tree shorter (checked_parent known checked) tried)
          · next error' other last =>
              split_ifs at first with there
              · cases first
              · cases first
                exact .of_makeDirectory tree checked last
                  (fun leads => there ((isDirectory_iff checked).2 leads)) failed

/-! ## Second attempts -/

/-- A failure that is not for want of ancestors is final. -/
theorem makeAllFuel_final (known : path.parent? = some parent) (fuel : Nat) {error : DiskError}
    (failed : disk.makeDirectory path = .error error) (other : error ≠ .notFound)
    (nowhere : disk.isDirectory path = false) :
    makeAllFuel (fuel + 1) disk path = (disk, .error error) := by
  rw [makeAllFuel, known]
  dsimp only
  rw [failed]
  cases error <;> first | exact absurd rfl other | simp [nowhere]

theorem Failure.nowhere {fuel : Nat} {error : DiskError} (failure : Failure fuel disk path error) :
    ¬ disk.Leads path := by
  rintro ⟨location, led, here⟩
  cases failure with
  | occupied place content there file =>
      rw [led] at there
      cases there
      rw [here] at file
      cases file
  | broken _ there => rw [led] at there; cases there
  | blocked there => rw [led] at there; cases there
  | missing _ there => rw [led] at there; cases there

/-- After a failure the path does not lead to a directory, and a second attempt changes nothing.  It
fails in the same way, unless the first one has met a file below directories that were missing until
then. -/
theorem makeAll_fails_again (tree : disk.Tree) (checked : path.text ≠ "" → checkPath path = .ok ())
    {error : DiskError} (failed : disk.makeAll path = (disk', .error error)) :
    ¬ disk'.Leads path ∧ ∃ error', disk'.makeAll path = (disk', .error error') ∧
      (error' = error ↔ ¬ (error = .exists ∧ disk'.route path = .error .notDirectory)) := by
  cases known : path.parent? with
  | none =>
      rw [makeAll, makeAllFuel, known] at failed
      cases failed
  | some parent =>
      have failure := makeAllFuel_failure tree (Nat.lt_succ_self _) checked failed
      have checked := checked (text_of_parent known)
      refine ⟨failure.nowhere, ?_⟩
      have nowhere : disk'.isDirectory path = false := by
        rw [← Bool.not_eq_true, isDirectory_iff checked]
        exact failure.nowhere
      cases failure with
      | occupied location content led file =>
          have last := makeDirectory_of_ok checked led
          exact ⟨.exists, makeAllFuel_final known _ last nofun nowhere, by simp [led]⟩
      | broken error led other =>
          have last := makeDirectory_of_error checked led other
          refine ⟨error, makeAllFuel_final known _ last other nowhere, ?_⟩
          simp only [led, true_iff, not_and, Except.error.injEq]
          rintro rfl
          exact nofun
      | blocked led =>
          have last := makeDirectory_of_error checked led nofun
          exact ⟨.notDirectory, makeAllFuel_final known _ last nofun nowhere, by simp [led]⟩
      | missing error led again => exact ⟨error, again, by simp [led]⟩

/-- A path whose parent does not lead to a directory leads nowhere. -/
theorem leads_parent (known : path.parent? = some parent) (led : disk.route path = .ok location) :
    disk.Leads parent := by
  rcases steps_parent known with ⟨lower, more, steps⟩
  rw [route, steps, walk_append, ← startOf_parent known] at led
  cases above : disk.walk (disk.startOf parent) parent.steps with
  | error error => rw [above] at led; cases led
  | ok directory =>
      rw [above] at led
      cases lower with
      | nil => exact absurd rfl more
      | cons step lower =>
          rw [Except.bind, walk_cons] at led
          cases next : disk.follow directory step with
          | error error => rw [next] at led; cases led
          | ok place => exact ⟨directory, above, (follow_ok next).1⟩

/-- With something wrong with its text, nothing is made for a path. -/
theorem makeAll_unchecked (disk : Disk) (known : path.parent? = some parent) {error : DiskError}
    (wrong : checkPath path = .error error) :
    disk.makeAll path = (disk, .error error) ∧ error ≠ .exists := by
  have failed : disk.makeDirectory path = .error error := by
    rw [makeDirectory, slot, wrong]
    rfl
  have nowhere : disk.isDirectory path = false := by
    rw [isDirectory, locate, wrong]
    rfl
  have kinds : error ≠ .notFound ∧ error ≠ .exists := by
    rw [checkPath, if_neg (text_of_parent known)] at wrong
    split_ifs at wrong <;> cases wrong <;> decide
  exact ⟨makeAllFuel_final known _ failed kinds.1 nowhere, kinds.2⟩

/-- A second attempt after a success changes nothing. -/
theorem makeAll_again (checked : path.text ≠ "" → checkPath path = .ok ())
    (made : disk.makeAll path = (disk', .ok ())) : disk'.makeAll path = (disk', .ok ()) :=
  makeAllFuel_again checked made

end Disk
end FormSnippet
