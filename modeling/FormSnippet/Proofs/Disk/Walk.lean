import FormSnippet.Proofs.Disk.Path
import Mathlib.Data.List.Basic

/-!
# Walk — where paths lead

A walk that succeeds ends where its steps lead on the names alone; what has been made since does not
keep it from succeeding.  Single directories and files are made at the place to which their path
leads, in a directory that is there, and change nothing else.

- `Disk.reach`              : where steps lead on the names alone
- `Disk.walk_append`        : steps after steps
- `Disk.walk_grown`         : a walk succeeds on a disk with more on it
- `Disk.makeDirectory_ok`, `Disk.makeDirectory_error` : a single directory made, or not
- `Disk.write_ok`           : a file made or overwritten
-/

namespace FormSnippet
namespace Disk

variable {disk disk' : Disk} {path : Path} {location start : Location} {error : DiskError}

/-! ## Entries -/

theorem entry?_root (root : isRoot location = true) : disk.entry? location = some .directory := by
  unfold entry?
  rw [root]
  rfl

theorem isRoot_eq_false (other : disk.entry? location ≠ some .directory) :
    isRoot location = false := by
  cases root : isRoot location with
  | false => rfl
  | true => exact absurd (entry?_root root) other

theorem entry?_inner (inner : isRoot location = false) :
    disk.entry? location = (disk.entries.find? (·.1 = location)).map (·.2) := by
  unfold entry?
  rw [inner]
  rfl

theorem isDirectoryAt_iff :
    disk.isDirectoryAt location = true ↔ disk.entry? location = some .directory := by
  unfold isDirectoryAt
  split <;> simp_all

theorem entry?_put_self (entry : Entry) (inner : isRoot location = false) :
    Disk.entry? (disk.put location entry) location = some entry := by
  have absent : (disk.entries.filter (·.1 ≠ location)).find? (·.1 = location) = none := by
    rw [List.find?_eq_none]
    intro other mem
    simpa using (List.mem_filter.1 mem).2
  rw [entry?_inner inner, put, List.find?_append, absent]
  simp

theorem entry?_put_of_ne (entry : Entry) {other : Location} (apart : other ≠ location) :
    Disk.entry? (disk.put location entry) other = disk.entry? other := by
  have kept : (disk.put location entry).entries.find? (·.1 = other) =
      disk.entries.find? (·.1 = other) := by
    have last : [(location, entry)].find? (·.1 = other) = none := by simp [Ne.symm apart]
    rw [put, List.find?_append, List.find?_filter, last, Option.or_none]
    refine congrArg (List.find? · disk.entries) (funext ?_)
    intro e
    by_cases here : e.1 = other
    · simp [here, apart]
    · simp [here]
  unfold entry?
  rw [kept]

/-! ## Single steps -/

/-- Where a step leads on the names alone. -/
def stepTo (location : Location) (step : String) : Location :=
  if step = "." then location else if step = ".." then above location else location ++ [step]

/-- A step that needs nothing but a directory to start from. -/
def isDots (step : String) : Bool :=
  step = "." || step = ".."

theorem stepTo_name {name : String} (proper : isDots name = false) :
    stepTo location name = location ++ [name] := by
  simp_all [stepTo, isDots]

def follow (disk : Disk) (location : Location) (step : String) : Except DiskError Location :=
  match disk.entry? location with
  | none => .error .notFound
  | some (.file _) => .error .notDirectory
  | some .directory =>
      if isDots step then .ok (stepTo location step)
      else if step.utf8ByteSize > maxNameBytes then .error .nameTooLong
      else if disk.entry? (stepTo location step) = none then .error .notFound
      else .ok (stepTo location step)

/-- Where steps lead on the names alone, whether or not there is anything on the way. -/
def reach (start : Location) (steps : List String) : Location :=
  steps.foldl stepTo start

theorem walk_cons (step : String) (rest : List String) :
    disk.walk location (step :: rest) =
      (disk.follow location step).bind fun next => disk.walk next rest := by
  rw [walk, follow]
  cases disk.entry? location with
  | none => rfl
  | some entry =>
      cases entry with
      | file => rfl
      | directory =>
          by_cases stay : step = "."
          · simp [isDots, stay, stepTo, Except.bind]
          · by_cases up : step = ".."
            · simp [isDots, up, stepTo, Except.bind]
            · by_cases long : step.utf8ByteSize > maxNameBytes
              · simp [isDots, stay, up, long, Except.bind]
              · cases found : disk.entry? (location ++ [step]) with
                | none => simp [isDots, stay, up, stepTo, long, found, Except.bind]
                | some entry => simp [isDots, stay, up, stepTo, long, found, Except.bind]

theorem walk_append (steps rest : List String) :
    disk.walk start (steps ++ rest) =
      (disk.walk start steps).bind fun location => disk.walk location rest := by
  induction steps generalizing start with
  | nil => rfl
  | cons step steps ih =>
      rw [List.cons_append, walk_cons, walk_cons]
      cases disk.follow start step with
      | error => rfl
      | ok next => exact ih

theorem walk_single (step : String) : disk.walk location [step] = disk.follow location step := by
  rw [walk_cons]
  cases disk.follow location step <;> rfl

theorem follow_ok {step : String} {next : Location} (ok : disk.follow location step = .ok next) :
    disk.entry? location = some .directory ∧ next = stepTo location step ∧
      (isDots step = false → step.utf8ByteSize ≤ maxNameBytes ∧ disk.entry? next ≠ none) := by
  unfold follow at ok
  split at ok
  · cases ok
  · cases ok
  · next here =>
      split_ifs at ok with dots long missing
      · cases ok
        exact ⟨here, rfl, fun proper => by simp [dots] at proper⟩
      · cases ok
        exact ⟨here, rfl, fun _ => ⟨by omega, missing⟩⟩

/-- A walk ends where its steps lead on the names alone. -/
theorem walk_ok {steps : List String} (ok : disk.walk start steps = .ok location) :
    location = reach start steps := by
  induction steps generalizing start with
  | nil => cases ok; rfl
  | cons step steps ih =>
      rw [walk_cons] at ok
      cases first : disk.follow start step with
      | error error => rw [first] at ok; cases ok
      | ok next =>
          rw [first] at ok
          rw [ih ok, (follow_ok first).2.1]
          rfl

/-! ## Disks with more on them -/

/-- What is a directory stays one, and what is there stays there. -/
structure Grown (disk disk' : Disk) : Prop where
  directory : ∀ location, disk.entry? location = some .directory →
    disk'.entry? location = some .directory
  present : ∀ location, disk.entry? location ≠ none → disk'.entry? location ≠ none

theorem Grown.follow (grown : Grown disk disk') {step : String} {next : Location}
    (ok : disk.follow location step = .ok next) : disk'.follow location step = .ok next := by
  rcases follow_ok ok with ⟨here, rfl, proper⟩
  rw [Disk.follow, grown.directory location here]
  dsimp only
  split_ifs with dots long missing
  · rfl
  · exact absurd long (by have := (proper (by simpa using dots)).1; omega)
  · exact absurd missing (grown.present _ (proper (by simpa using dots)).2)
  · rfl

theorem Grown.walk (grown : Grown disk disk') {steps : List String}
    (ok : disk.walk start steps = .ok location) : disk'.walk start steps = .ok location := by
  induction steps generalizing start with
  | nil => exact ok
  | cons step steps ih =>
      rw [walk_cons] at ok ⊢
      cases first : disk.follow start step with
      | error error => rw [first] at ok; cases ok
      | ok next =>
          rw [first] at ok
          rw [grown.follow first]
          exact ih ok

/-- An entry in a place where there is no directory. -/
theorem grown_put (other : disk.entry? location ≠ some .directory) (entry : Entry) :
    Grown disk (disk.put location entry) := by
  have inner : isRoot location = false := isRoot_eq_false other
  constructor
  · intro place here
    by_cases same : place = location
    · subst same
      exact absurd here other
    · rw [entry?_put_of_ne entry same]
      exact here
  · intro place here
    by_cases same : place = location
    · subst same
      rw [entry?_put_self entry inner]
      exact Option.some_ne_none entry
    · rw [entry?_put_of_ne entry same]
      exact here

/-! ## Paths -/

/-- Where the steps of a path lead. -/
def route (disk : Disk) (path : Path) : Except DiskError Location :=
  disk.walk (disk.startOf path) path.steps

/-- The path leads to a directory. -/
def Leads (disk : Disk) (path : Path) : Prop :=
  ∃ location, disk.route path = .ok location ∧ disk.entry? location = some .directory

theorem route_concat {upper : List String} {name : String} (steps : path.steps = upper ++ [name]) :
    disk.route path =
      (disk.walk (disk.startOf path) upper).bind fun location => disk.follow location name := by
  rw [route, steps, walk_append]
  congr 1
  funext location
  exact walk_single name

theorem slot_concat (checked : checkPath path = .ok ()) {upper : List String} {name : String}
    (steps : path.steps = upper ++ [name]) :
    disk.slot path = (disk.walk (disk.startOf path) upper).bind fun location =>
      if !disk.isDirectoryAt location then .error .notDirectory
      else if isDots name then .ok (location, none)
      else .ok (location, some name) := by
  rw [slot, checked, steps, List.getLast?_concat, List.dropLast_concat]
  rfl

theorem locate_eq (checked : checkPath path = .ok ()) :
    disk.locate path = (disk.route path).bind fun location =>
      if path.endsInSlash && !disk.isDirectoryAt location then .error .notDirectory
      else .ok location := by
  rw [locate, checked]
  rfl

theorem isDirectory_iff (checked : checkPath path = .ok ()) :
    disk.isDirectory path = true ↔ disk.Leads path := by
  rw [isDirectory, locate_eq checked, Leads]
  cases disk.route path with
  | error error => simp [Except.bind]
  | ok location =>
      simp only [Except.bind, Except.ok.injEq, exists_eq_left', ← isDirectoryAt_iff]
      cases directory : disk.isDirectoryAt location <;> cases path.endsInSlash <;> simp [directory]

/-! ## Making a directory -/

section Making

variable (checked : checkPath path = .ok ())

include checked

/-- Nothing is made where there is something already. -/
theorem makeDirectory_of_ok (there : disk.route path = .ok location) :
    disk.makeDirectory path = .error .exists := by
  rcases List.eq_nil_or_concat' path.steps with none | ⟨upper, name, steps⟩
  · rw [makeDirectory, slot, checked, none]
    rfl
  · rw [route_concat steps] at there
    rw [makeDirectory, slot_concat checked steps]
    cases above : disk.walk (disk.startOf path) upper with
    | error error => rw [above] at there; cases there
    | ok directory =>
        rw [above] at there
        rcases follow_ok there with ⟨here, rfl, proper⟩
        simp only [Except.bind, isDirectoryAt_iff.2 here]
        cases dots : isDots name with
        | true => rfl
        | false =>
            have short : ¬ name.utf8ByteSize > maxNameBytes := by
              have := (proper dots).1
              omega
            rw [stepTo_name dots] at proper
            rcases Option.ne_none_iff_exists'.1 (proper dots).2 with ⟨entry, found⟩
            simp [bind, Except.bind, target, short, found]

/-- A walk that fails above the last step fails for the whole path. -/
theorem makeDirectory_of_above {upper lower : List String} {error : DiskError}
    (steps : path.steps = upper ++ lower) (more : lower ≠ [])
    (failed : disk.walk (disk.startOf path) upper = .error error) :
    disk.makeDirectory path = .error error := by
  rcases List.eq_nil_or_concat' lower with none | ⟨inner, name, rfl⟩
  · exact absurd none more
  · rw [← List.append_assoc] at steps
    rw [makeDirectory, slot_concat checked steps, walk_append, failed]
    rfl

/-- Where a walk fails and the last step is not merely missing, the failure is the same. -/
theorem makeDirectory_of_error {error : DiskError} (failed : disk.route path = .error error)
    (other : error ≠ .notFound) : disk.makeDirectory path = .error error := by
  rcases List.eq_nil_or_concat' path.steps with none | ⟨upper, name, steps⟩
  · rw [route, none] at failed
    cases failed
  · rw [route_concat steps] at failed
    cases above : disk.walk (disk.startOf path) upper with
    | error error' =>
        rw [above] at failed
        cases failed
        exact makeDirectory_of_above checked steps (List.cons_ne_nil _ _) above
    | ok directory =>
        rw [above] at failed
        have last : disk.follow directory name = .error error := failed
        rw [makeDirectory, slot_concat checked steps, above]
        unfold follow at last
        simp only [Except.bind]
        split at last
        · cases last
          exact absurd rfl other
        · next here =>
            cases last
            simp [isDirectoryAt, here, bind, Except.bind]
        · next here =>
            split_ifs at last with dots long missing
            · cases last
              simp [isDirectoryAt, here, bind, Except.bind, dots, target, long]
            · cases last
              exact absurd rfl other

end Making

theorem checked_of_slot {place : Location × Option String} (ok : disk.slot path = .ok place) :
    checkPath path = .ok () := by
  cases checked : checkPath path with
  | ok => rfl
  | error error =>
      rw [slot, checked] at ok
      cases ok

/-- A path that names an entry of a directory, with the name of the entry. -/
theorem slot_some {directory : Location} {name : String}
    (ok : disk.slot path = .ok (directory, some name)) :
    ∃ upper, path.steps = upper ++ [name] ∧ disk.walk (disk.startOf path) upper = .ok directory ∧
      disk.entry? directory = some .directory ∧ isDots name = false := by
  have checked := checked_of_slot ok
  rcases List.eq_nil_or_concat' path.steps with none | ⟨upper, last, steps⟩
  · rw [slot, checked, none] at ok
    cases ok
  · rw [slot_concat checked steps] at ok
    cases above : disk.walk (disk.startOf path) upper with
    | error error => rw [above] at ok; cases ok
    | ok location =>
        rw [above] at ok
        simp only [Except.bind] at ok
        split_ifs at ok with other dots
        · cases ok
        · obtain ⟨rfl, rfl⟩ : location = directory ∧ last = name := by simpa using ok
          exact ⟨upper, steps, above, isDirectoryAt_iff.1 (by simpa using other),
            by simpa using dots⟩

/-- The last step of such a path, where the entry is there. -/
theorem route_slot {directory : Location} {upper : List String} {name : String}
    (steps : path.steps = upper ++ [name])
    (above : disk.walk (disk.startOf path) upper = .ok directory)
    (here : disk.entry? directory = some .directory) (proper : isDots name = false)
    (short : ¬ name.utf8ByteSize > maxNameBytes) :
    disk.route path = if disk.entry? (directory ++ [name]) = none then .error .notFound
      else .ok (directory ++ [name]) := by
  rw [route_concat steps, above, Except.bind, follow, here, stepTo_name proper]
  simp [proper, short]

theorem reach_slot {directory : Location} {upper : List String} {name : String}
    (steps : path.steps = upper ++ [name])
    (above : disk.walk (disk.startOf path) upper = .ok directory) (proper : isDots name = false) :
    reach (disk.startOf path) path.steps = directory ++ [name] := by
  rw [walk_ok above, steps, reach, List.foldl_append]
  exact stepTo_name proper

/-- A directory is made in a place where there is nothing, and the path leads to it from then on. -/
theorem makeDirectory_ok (made : disk.makeDirectory path = .ok disk') :
    disk.entry? (reach (disk.startOf path) path.steps) = none ∧
      disk.entry? (above (reach (disk.startOf path) path.steps)) = some .directory ∧
      disk' = disk.put (reach (disk.startOf path) path.steps) .directory ∧
      disk.route path = .error .notFound ∧
      disk'.route path = .ok (reach (disk.startOf path) path.steps) := by
  unfold makeDirectory at made
  cases slot : disk.slot path with
  | error error => rw [slot] at made; cases made
  | ok place =>
      rw [slot] at made
      rcases place with ⟨directory, none | name⟩
      · cases made
      · rcases slot_some slot with ⟨upper, steps, above, here, proper⟩
        simp only [bind, Except.bind, target] at made
        split_ifs at made with long
        dsimp only at made
        cases found : disk.entry? (directory ++ [name]) with
        | some entry => rw [found] at made; cases made
        | none =>
            rw [found] at made
            cases made
            have other : disk.entry? (directory ++ [name]) ≠ some .directory := by simp [found]
            have grown := grown_put other .directory
            have inner := isRoot_eq_false other
            have start : (disk.put (directory ++ [name]) .directory).startOf path =
                disk.startOf path := rfl
            have upper' : Disk.above (directory ++ [name]) = directory := by
              simp [Disk.above, inner]
            rw [reach_slot steps above proper, upper']
            refine ⟨found, here, rfl, ?_, ?_⟩
            · rw [route_slot steps above here proper long, found]
              rfl
            · rw [route_slot steps (grown.walk (start ▸ above)) (grown.directory _ here) proper long,
                entry?_put_self _ inner]
              rfl

theorem makeDirectory_leads (made : disk.makeDirectory path = .ok disk') : disk'.Leads path := by
  rcases makeDirectory_ok made with ⟨missing, -, rfl, -, led⟩
  have free : disk.entry? (reach (disk.startOf path) path.steps) ≠ some .directory := by
    simp [missing]
  exact ⟨_, led, entry?_put_self _ (isRoot_eq_false free)⟩

/-! ## Looking up, and writing -/

theorem lookup_of_route (checked : checkPath path = .ok ()) (plain : path.endsInSlash = false)
    (there : disk.route path = .ok location) {entry : Entry}
    (found : disk.entry? location = some entry) : disk.lookup path = .ok entry := by
  rw [lookup, locate_eq checked, there, plain]
  simp [bind, Except.bind, found]

theorem exists_of_lookup {entry : Entry} (there : disk.lookup path = .ok entry) :
    disk.exists path = true := by
  unfold lookup at there
  unfold «exists»
  cases located : disk.locate path with
  | ok location => rfl
  | error error => rw [located] at there; cases there

/-- What exists is led to by its steps. -/
theorem route_of_exists (there : disk.exists path = true) :
    checkPath path = .ok () ∧ ∃ location, disk.route path = .ok location := by
  unfold «exists» at there
  cases checked : checkPath path with
  | error error =>
      rw [locate, checked] at there
      cases there
  | ok =>
      rw [locate_eq checked] at there
      cases led : disk.route path with
      | error error => rw [led] at there; cases there
      | ok location => exact ⟨rfl, location, rfl⟩

/-- What is found is where the steps lead, and a directory if a slash at the end asks for one. -/
theorem lookup_ok {entry : Entry} (there : disk.lookup path = .ok entry) :
    checkPath path = .ok () ∧ ∃ location, disk.route path = .ok location ∧
      disk.entry? location = some entry ∧ (path.endsInSlash = true → entry = .directory) := by
  rcases route_of_exists (exists_of_lookup there) with ⟨checked, location, led⟩
  rw [lookup, locate_eq checked, led] at there
  simp only [bind, Except.bind] at there
  refine ⟨checked, location, led, ?_⟩
  cases here : disk.entry? location with
  | none => split_ifs at there; simp [here] at there
  | some found =>
      split_ifs at there with slash
      obtain rfl : found = entry := by simpa [here] using there
      refine ⟨rfl, fun ends => ?_⟩
      cases found with
      | directory => rfl
      | file content => simp [ends, isDirectoryAt, here] at slash

/-- A file is written in a place where there is no directory, and the path leads to it from then
on; if there is anything in that place before, the path leads to it as well. -/
theorem write_ok {content : ByteArray} (written : disk.write path content = .ok disk') :
    disk' = disk.put (reach (disk.startOf path) path.steps) (.file content) ∧
      disk.entry? (reach (disk.startOf path) path.steps) ≠ some .directory ∧
      disk'.lookup path = .ok (.file content) ∧
      (∀ entry, disk.entry? (reach (disk.startOf path) path.steps) = some entry →
        disk.lookup path = .ok entry) ∧
      (disk.exists path = true → disk.entry? (reach (disk.startOf path) path.steps) ≠ none) := by
  unfold write at written
  cases slot : disk.slot path with
  | error error => rw [slot] at written; cases written
  | ok place =>
      rw [slot] at written
      have checked := checked_of_slot slot
      rcases place with ⟨directory, none | name⟩
      · cases written
      · rcases slot_some slot with ⟨upper, steps, above, here, proper⟩
        simp only [bind, Except.bind] at written
        have plain : path.endsInSlash = false := by
          cases slash : path.endsInSlash with
          | false => rfl
          | true => rw [slash] at written; cases written
        rw [plain, if_neg Bool.false_ne_true, target] at written
        by_cases long : name.utf8ByteSize > maxNameBytes
        · rw [if_pos long] at written
          cases written
        rw [if_neg long] at written
        dsimp only at written
        have free : disk.entry? (directory ++ [name]) ≠ some .directory := by
          intro other
          rw [if_pos (isDirectoryAt_iff.2 other)] at written
          cases written
        rw [if_neg fun other => free (isDirectoryAt_iff.1 other)] at written
        cases written
        have grown := grown_put free (.file content)
        have inner := isRoot_eq_false free
        have put : Disk.entry? (disk.put (directory ++ [name]) (.file content)) (directory ++ [name]) =
            some (.file content) := entry?_put_self _ inner
        have start : (disk.put (directory ++ [name]) (.file content)).startOf path =
            disk.startOf path := rfl
        have led := route_slot steps above here proper long
        have led' := route_slot steps (grown.walk (start ▸ above)) (grown.directory _ here) proper
          long
        rw [put, if_neg (Option.some_ne_none _)] at led'
        rw [reach_slot steps above proper]
        refine ⟨rfl, free, lookup_of_route checked plain led' put, ?_, ?_⟩
        · intro entry found
          rw [found, if_neg (Option.some_ne_none _)] at led
          exact lookup_of_route checked plain led found
        · intro there missing
          rcases (route_of_exists there).2 with ⟨location, led''⟩
          rw [led, missing, if_pos rfl] at led''
          cases led''

/-! ## Trees -/

/-- The working directory is there, and so is the directory of every entry. -/
structure Tree (disk : Disk) : Prop where
  current : disk.entry? disk.current = some .directory
  above : ∀ location, disk.entry? location ≠ none → disk.entry? (above location) = some .directory

namespace Tree

variable (tree : disk.Tree)

include tree

theorem startOf (path : Path) : disk.entry? (disk.startOf path) = some .directory := by
  rw [Disk.startOf]
  split
  · exact entry?_root rfl
  · exact tree.current

/-- A step that succeeds leads to an entry; steps without a name lead to directories. -/
theorem follow {step : String} (ok : disk.follow start step = .ok location) :
    disk.entry? location ≠ none ∧
      (isDots step = true → disk.entry? location = some .directory) := by
  rcases follow_ok ok with ⟨here, rfl, proper⟩
  cases dots : isDots step with
  | false => exact ⟨(proper dots).2, nofun⟩
  | true =>
      have directory : disk.entry? (stepTo start step) = some .directory := by
        rw [stepTo]
        split_ifs with stay up
        · exact here
        · exact tree.above start (by simp [here])
        · simp [isDots, stay, up] at dots
      exact ⟨by simp [directory], fun _ => directory⟩

theorem route_present (led : disk.route path = .ok location) : disk.entry? location ≠ none := by
  rcases List.eq_nil_or_concat' path.steps with none | ⟨upper, name, steps⟩
  · rw [route, none] at led
    cases led
    simp [tree.startOf path]
  · rw [route_concat steps] at led
    cases above : disk.walk (disk.startOf path) upper with
    | error error => rw [above] at led; cases led
    | ok directory =>
        rw [above] at led
        exact (tree.follow led).1

/-- What exists is a file or a directory. -/
theorem lookup_of_exists (there : disk.exists path = true) :
    ∃ entry, disk.lookup path = .ok entry := by
  rcases route_of_exists there with ⟨checked, location, led⟩
  unfold «exists» at there
  cases located : disk.locate path with
  | error error => rw [located] at there; cases there
  | ok place =>
      have same : place = location := by
        rw [locate_eq checked, led, Except.bind] at located
        split_ifs at located
        exact (Except.ok.inj located).symm
      rcases Option.ne_none_iff_exists'.1 (tree.route_present led) with ⟨entry, found⟩
      refine ⟨entry, ?_⟩
      rw [lookup, located, same]
      simp [bind, Except.bind, found]

/-- A file that is there can be overwritten. -/
theorem write_of_file {content : ByteArray} (there : disk.lookup path = .ok (.file content))
    (content' : ByteArray) : ∃ disk', disk.write path content' = .ok disk' := by
  rcases lookup_ok there with ⟨checked, location, led, found, slash⟩
  have plain : path.endsInSlash = false := by
    rw [← Bool.not_eq_true]
    intro ends
    cases slash ends
  have other : disk.isDirectoryAt location = false := by simp [isDirectoryAt, found]
  rcases List.eq_nil_or_concat' path.steps with none | ⟨upper, name, steps⟩
  · rw [route, none] at led
    cases led
    rw [tree.startOf path] at found
    cases found
  · rw [route_concat steps] at led
    cases above : disk.walk (disk.startOf path) upper with
    | error error => rw [above] at led; cases led
    | ok directory =>
        rw [above] at led
        have last : disk.follow directory name = .ok location := led
        rcases follow_ok last with ⟨here, rfl, proper⟩
        cases dots : isDots name with
        | true =>
            rw [(tree.follow last).2 dots] at found
            cases found
        | false =>
            have short : ¬ name.utf8ByteSize > maxNameBytes := by
              have := (proper dots).1
              omega
            rw [stepTo_name dots] at other
            refine ⟨disk.put (directory ++ [name]) (.file content'), ?_⟩
            rw [write, slot_concat checked steps, above]
            simp [bind, Except.bind, isDirectoryAt_iff.2 here, dots, plain, target, short, other]

theorem put {location : Location} (entry : Entry) (missing : disk.entry? location ≠ some .directory)
    (inner : disk.entry? (Disk.above location) = some .directory) :
    (disk.put location entry).Tree := by
  have grown := grown_put missing entry
  refine ⟨grown.directory _ tree.current, ?_⟩
  intro place here
  by_cases same : place = location
  · rw [same]
    exact grown.directory _ inner
  · rw [entry?_put_of_ne entry same] at here
    exact grown.directory _ (tree.above place here)

end Tree
end Disk
end FormSnippet
