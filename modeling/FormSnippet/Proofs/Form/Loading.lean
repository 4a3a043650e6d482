import FormSnippet.Proofs.Disk.Plain
import FormSnippet.Proofs.Form.Sample

/-!
# Loading — what a load does to the disk

A load that may make the sample file asks first whether the path exists, then makes the directory of
the file, and writes the sample.  Making directories can change the answer: a path that goes up from
a directory which has just been made may exist from then on, and then the sample is written over the
file that is there.  In the same way a second load may see another failure than the first one.  These
are the only cases in which a load damages a file or does not repeat itself.

- `Source.Overwrites`       : the sample is written over a file
- `Source.Repeats`          : a second load does what the first one did
- `Source.Revisits`, `Source.Blocked` : a second load fails in another way
- `Source.load_safe_iff`    : what a load changes, and when it is safe
-/

namespace FormSnippet

open Disk

variable {disk disk' made : Disk} {path parent : Path} {source : Source}

/-! ## The course of a load -/

namespace Source

/-- The sample is asked for, and nothing seems to be in its place. -/
def Creates (source : Source) (disk : Disk) : Prop :=
  source.createIfMissing = true ∧ disk.exists source.path = false

/-- The disk with the directory that the file belongs in, and how making it went. -/
def withDirectory (source : Source) (disk : Disk) : Disk × Except DiskError Unit :=
  match source.path.parent? with
  | none => (disk, .ok ())
  | some parent => disk.makeAll parent

theorem load_of_idle (idle : ¬ source.Creates disk) :
    (source.load disk).disk = disk ∧
      (source.load disk).result = (loadForms disk source.path).2 := by
  have unasked : (source.createIfMissing && !disk.exists source.path) = false := by
    simpa [Creates] using idle
  rw [load, prepare, unasked]
  exact ⟨rfl, rfl⟩

theorem prepare_creates (creates : source.Creates disk) :
    source.prepare disk = createSample disk source.path := by
  rw [prepare, if_pos (by simp [creates.1, creates.2])]

theorem load_of_failed (creates : source.Creates disk) (known : source.path.parent? = some parent)
    {cause : DiskError} (failed : source.withDirectory disk = (made, .error cause)) :
    (source.load disk).disk = made ∧
      (source.load disk).result = .error (.createDirectory parent cause) := by
  rw [withDirectory, known] at failed
  rw [load, prepare_creates creates, createSample, known]
  dsimp only at failed ⊢
  rw [failed]
  exact ⟨rfl, rfl⟩

/-- The sample is written once its directory is there. -/
theorem createSample_ready (ready : source.withDirectory disk = (made, .ok ())) :
    createSample disk source.path =
      match made.write source.path sampleText.toUTF8 with
      | .error cause => ⟨made, [], .error (.write source.path cause)⟩
      | .ok disk' => ⟨disk', [.createdSample source.path.text], .ok ()⟩ := by
  unfold withDirectory at ready
  unfold createSample
  cases known : source.path.parent? with
  | none =>
      rw [known] at ready
      cases ready
      rfl
  | some parent =>
      rw [known] at ready
      dsimp only at ready
      cases written : made.write source.path sampleText.toUTF8 <;> simp only [ready, written]

theorem load_of_refused (creates : source.Creates disk)
    (ready : source.withDirectory disk = (made, .ok ())) {cause : DiskError}
    (failed : made.write source.path sampleText.toUTF8 = .error cause) :
    (source.load disk).disk = made ∧
      (source.load disk).result = .error (.write source.path cause) := by
  rw [load, prepare_creates creates, createSample_ready ready, failed]
  exact ⟨rfl, rfl⟩

/-- A sample that has been written is read at once. -/
theorem load_of_written (creates : source.Creates disk)
    (ready : source.withDirectory disk = (made, .ok ()))
    (written : made.write source.path sampleText.toUTF8 = .ok disk') :
    (source.load disk).disk = disk' ∧ (source.load disk).result = .ok sampleForms := by
  have there := (write_ok written).2.2.1
  rw [load, prepare_creates creates, createSample_ready ready, written]
  exact ⟨rfl, loadForms_sample there⟩

/-- What a load can come to: the disk after it, and its result. -/
inductive Course (source : Source) (disk : Disk) : Disk → Except LoadError (List Form) → Prop
  | reads (idle : ¬ source.Creates disk) :
      Course source disk disk (loadForms disk source.path).2
  | failed (creates : source.Creates disk) (made : Disk) (parent : Path) (cause : DiskError)
      (known : source.path.parent? = some parent)
      (failed : source.withDirectory disk = (made, .error cause)) :
      Course source disk made (.error (.createDirectory parent cause))
  | refused (creates : source.Creates disk) (made : Disk) (cause : DiskError)
      (ready : source.withDirectory disk = (made, .ok ()))
      (failed : made.write source.path sampleText.toUTF8 = .error cause) :
      Course source disk made (.error (.write source.path cause))
  | written (creates : source.Creates disk) (made disk' : Disk)
      (ready : source.withDirectory disk = (made, .ok ()))
      (written : made.write source.path sampleText.toUTF8 = .ok disk') :
      Course source disk disk' (.ok sampleForms)

theorem load_course (source : Source) (disk : Disk) :
    source.Course disk (source.load disk).disk (source.load disk).result := by
  by_cases creates : source.Creates disk
  · rcases outcome : source.withDirectory disk with ⟨made, cause | ⟨⟩⟩
    · cases known : source.path.parent? with
      | none =>
          rw [withDirectory, known] at outcome
          cases outcome
      | some parent =>
          rcases load_of_failed creates known outcome with ⟨after, result⟩
          rw [after, result]
          exact .failed creates made parent cause known outcome
    · cases wrote : made.write source.path sampleText.toUTF8 with
      | error cause =>
          rcases load_of_refused creates outcome wrote with ⟨after, result⟩
          rw [after, result]
          exact .refused creates made cause outcome wrote
      | ok disk' =>
          rcases load_of_written creates outcome wrote with ⟨after, result⟩
          rw [after, result]
          exact .written creates made disk' outcome wrote
  · rcases load_of_idle creates with ⟨after, result⟩
    rw [after, result]
    exact .reads creates

/-! ## What a load makes -/

/-- Directories are made above the file, where they are missing. -/
theorem withDirectory_above (source : Source) (disk : Disk) :
    ∃ upper, upper <+: source.path.steps ∧ (upper ≠ source.path.steps ∨
      (source.withDirectory disk).1 = disk) ∧
      Built (disk.startOf source.path) upper disk (source.withDirectory disk).1 := by
  unfold withDirectory
  cases known : source.path.parent? with
  | none => exact ⟨[], List.nil_prefix, .inr rfl, .refl _ _ _⟩
  | some parent =>
      rcases steps_parent known with ⟨lower, more, steps⟩
      refine ⟨parent.steps, ⟨lower, steps.symm⟩, .inl ?_, ?_⟩
      · intro same
        rw [same] at steps
        exact more (List.self_eq_append_right.1 steps)
      · rw [← startOf_parent known]
        exact makeAll_built disk parent

theorem withDirectory_built (source : Source) (disk : Disk) :
    Built (disk.startOf source.path) source.path.steps disk (source.withDirectory disk).1 := by
  rcases source.withDirectory_above disk with ⟨upper, ⟨lower, steps⟩, -, built⟩
  rw [← steps]
  exact built.extend

/-- A directory that was missing above the file. -/
def Ancestor (source : Source) (disk disk' : Disk) (location : Location) : Prop :=
  disk.entry? location = none ∧ disk'.entry? location = some .directory ∧
    ∃ upper, upper <+: source.path.steps ∧ upper ≠ source.path.steps ∧
      location = reach (disk.startOf source.path) upper

theorem withDirectory_entries (source : Source) (disk : Disk) (location : Location) :
    Disk.entry? (source.withDirectory disk).1 location = disk.entry? location ∨
      source.Ancestor disk (source.withDirectory disk).1 location := by
  rcases source.withDirectory_above disk with ⟨upper, above, proper | same, built⟩
  · rcases built.entries location with same | ⟨missing, new, inner, inside, leads⟩
    · exact .inl same
    · refine .inr ⟨missing, new, inner, inside.trans above, ?_, leads⟩
      rintro rfl
      exact proper (above.eq_of_length_le inside.length_le)
  · rw [same]
    exact .inl rfl

/-! ## When a load is safe -/

/-- Once its directory has been made, the path leads to a file that is not the sample. -/
def Overwrites (source : Source) (disk : Disk) : Prop :=
  source.Creates disk ∧ ∃ made content, source.withDirectory disk = (made, .ok ()) ∧
    made.lookup source.path = .ok (.file content) ∧ content ≠ sampleText.toUTF8

/-- Once its directory has been made, the path leads to a directory. -/
def Revisits (source : Source) (disk : Disk) : Prop :=
  source.Creates disk ∧ ∃ made, source.withDirectory disk = (made, .ok ()) ∧
    made.lookup source.path = .ok .directory

/-- A file is in the way of its directory, below directories that have been missing. -/
def Blocked (source : Source) (disk : Disk) : Prop :=
  source.Creates disk ∧ ∃ made parent, source.withDirectory disk = (made, .error .exists) ∧
    source.path.parent? = some parent ∧ made.route parent = .error .notDirectory

theorem kept_iff (source : Source) {disk : Disk} (tree : disk.Tree) :
    (∀ location entry, disk.entry? location = some entry →
      Disk.entry? (source.load disk).disk location = some entry) ↔ ¬ source.Overwrites disk := by
  constructor
  · rintro kept ⟨creates, made, content, ready, there, other⟩
    have built := source.withDirectory_built disk
    rw [ready] at built
    rcases (built.tree tree).write_of_file there sampleText.toUTF8 with ⟨disk', written⟩
    rcases write_ok written with ⟨put, free, -, present, taken⟩
    -- The file is in the place where the sample is written.
    rcases Option.ne_none_iff_exists'.1 (taken (exists_of_lookup there)) with ⟨entry, found⟩
    obtain rfl : entry = .file content := by
      have same := present entry found
      rw [there] at same
      exact (Except.ok.inj same).symm
    have still := kept _ _ (built.file found)
    rw [(load_of_written creates ready written).1, put,
      entry?_put_self _ (isRoot_eq_false free)] at still
    cases still
    exact other rfl
  · intro safe location entry here
    have course := source.load_course disk
    have built := source.withDirectory_built disk
    generalize (source.load disk).disk = after, (source.load disk).result = result at course ⊢
    cases course with
    | reads idle => exact here
    | failed creates made parent cause known failed =>
        rw [failed] at built
        exact built.kept here
    | refused creates made cause ready failed =>
        rw [ready] at built
        exact built.kept here
    | written creates made disk' ready written =>
        rw [ready] at built
        have here' := built.kept here
        rcases write_ok written with ⟨put, free, -, present, -⟩
        by_cases same : location = reach (made.startOf source.path) source.path.steps
        · subst same
          cases entry with
          | directory => exact absurd here' free
          | file content =>
              by_cases sample : content = sampleText.toUTF8
              · rw [put, entry?_put_self _ (isRoot_eq_false free), sample]
              · exact absurd ⟨creates, made, content, ready, present _ here', sample⟩ safe
        · rw [put, entry?_put_of_ne _ same]
          exact here'

/-- A load after one that could not make the directory of the file. -/
theorem failed_again (tree : disk.Tree) (creates : source.Creates disk)
    (known : source.path.parent? = some parent) {cause : DiskError}
    (failed : source.withDirectory disk = (made, .error cause)) :
    ∃ cause', (source.load made).disk = made ∧
      (source.load made).result = .error (.createDirectory parent cause') ∧
      (cause' = cause ↔ ¬ (cause = .exists ∧ made.route parent = .error .notDirectory)) := by
  have tried : disk.makeAll parent = (made, .error cause) := by
    rw [withDirectory, known] at failed
    exact failed
  by_cases checked : parent.text ≠ "" → checkPath parent = .ok ()
  · rcases makeAll_fails_again tree checked tried with ⟨nowhere, cause', again, same⟩
    have creates' : source.Creates made := by
      refine ⟨creates.1, ?_⟩
      rw [← Bool.not_eq_true]
      intro there
      rcases route_of_exists there with ⟨-, location, led⟩
      exact nowhere (leads_parent known led)
    have failed' : source.withDirectory made = (made, .error cause') := by
      rw [withDirectory, known]
      exact again
    rcases load_of_failed creates' known failed' with ⟨after, result⟩
    exact ⟨cause', after, result, same⟩
  · -- With something wrong with the text of the parent, nothing has been made.
    cases known' : parent.parent? with
    | none =>
        rw [makeAll, makeAllFuel, known'] at tried
        cases tried
    | some upper =>
        cases wrong : checkPath parent with
        | ok => exact absurd (fun _ => wrong) checked
        | error error =>
            rcases makeAll_unchecked disk known' wrong with ⟨unchanged, other⟩
            rw [unchanged] at tried
            cases tried
            rcases load_of_failed creates known failed with ⟨after, result⟩
            exact ⟨cause, after, result, by simp [other]⟩

theorem withDirectory_again (ready : source.withDirectory disk = (made, .ok ())) :
    source.withDirectory made = (made, .ok ()) := by
  unfold withDirectory at ready ⊢
  cases known : source.path.parent? with
  | none => rfl
  | some parent =>
      rw [known] at ready
      dsimp only at ready ⊢
      cases known' : parent.parent? with
      | none => rw [makeAll, makeAllFuel, known']
      | some upper =>
          refine makeAll_again (fun _ => ?_) ready
          cases wrong : checkPath parent with
          | ok => rfl
          | error error =>
              rw [(makeAll_unchecked _ known' wrong).1] at ready
              cases ready

theorem loadForms_ne_write (disk : Disk) (path : Path) (cause : DiskError) :
    (loadForms disk path).2 ≠ .error (.write path cause) := by
  unfold loadForms
  split
  · exact nofun
  · split
    · exact nofun
    · dsimp only
      split <;> exact nofun

/-- A second load has the same result as the first one and changes nothing. -/
def Repeats (source : Source) (disk : Disk) : Prop :=
  (source.load (source.load disk).disk).result = (source.load disk).result ∧
    (source.load (source.load disk).disk).disk = (source.load disk).disk

theorem repeats_of_idle (idle : ¬ source.Creates disk) : source.Repeats disk := by
  have after := (load_of_idle idle).1
  rw [Repeats, after]
  exact ⟨rfl, after⟩

/-- A first load that has made no directory. -/
theorem repeats_failed_iff (tree : disk.Tree) (creates : source.Creates disk)
    {cause : DiskError} (failed : source.withDirectory disk = (made, .error cause)) :
    source.Repeats disk ↔ ¬ source.Revisits disk ∧ ¬ source.Blocked disk := by
  have visits : ¬ source.Revisits disk := by
    rintro ⟨-, made', ready, -⟩
    rw [failed] at ready
    cases ready
  cases known : source.path.parent? with
  | none =>
      rw [withDirectory, known] at failed
      cases failed
  | some parent =>
      rcases load_of_failed creates known failed with ⟨after, result⟩
      rcases failed_again tree creates known failed with ⟨cause', again, result', same⟩
      have blocked : source.Blocked disk ↔
          cause = .exists ∧ made.route parent = .error .notDirectory := by
        constructor
        · rintro ⟨-, made', parent', outcome, known', led⟩
          rw [failed] at outcome
          rw [known] at known'
          cases outcome
          cases known'
          exact ⟨rfl, led⟩
        · rintro ⟨rfl, led⟩
          exact ⟨creates, made, parent, failed, known, led⟩
      rw [Repeats, after, result, again, result', blocked, ← same]
      constructor
      · rintro ⟨equal, -⟩
        cases equal
        exact ⟨visits, rfl⟩
      · rintro ⟨-, rfl⟩
        exact ⟨rfl, rfl⟩

theorem not_blocked_of_ready (ready : source.withDirectory disk = (made, .ok ())) :
    ¬ source.Blocked disk := by
  rintro ⟨-, made', parent, outcome, -⟩
  rw [ready] at outcome
  cases outcome

/-- Where the sample cannot be written, the second load may find a directory instead. -/
theorem repeats_refused_iff (tree : disk.Tree) (creates : source.Creates disk)
    (ready : source.withDirectory disk = (made, .ok ())) {cause : DiskError}
    (failed : made.write source.path sampleText.toUTF8 = .error cause) :
    source.Repeats disk ↔ ¬ source.Revisits disk := by
  rcases load_of_refused creates ready failed with ⟨after, result⟩
  rw [Repeats, after, result]
  cases there : made.exists source.path with
  | false =>
      have visits : ¬ source.Revisits disk := by
        rintro ⟨-, made', ready', lookup⟩
        rw [ready] at ready'
        cases ready'
        rw [exists_of_lookup lookup] at there
        cases there
      have creates' : source.Creates made := ⟨creates.1, there⟩
      exact iff_of_true (load_of_refused creates' (withDirectory_again ready) failed).symm visits
  | true =>
      -- What exists is not a file, since that could be written.
      have built := source.withDirectory_built disk
      rw [ready] at built
      have visits : source.Revisits disk := by
        rcases (built.tree tree).lookup_of_exists there with ⟨_ | content, lookup⟩
        · exact ⟨creates, made, ready, lookup⟩
        · rcases (built.tree tree).write_of_file lookup sampleText.toUTF8 with ⟨_, written⟩
          rw [failed] at written
          cases written
      have idle : ¬ source.Creates made := by
        rintro ⟨-, absent⟩
        rw [there] at absent
        cases absent
      rw [(load_of_idle idle).2]
      exact iff_of_false (fun same => loadForms_ne_write _ _ _ same.1) (not_not_intro visits)

/-- A sample that has been written is found by the second load. -/
theorem repeats_of_written (creates : source.Creates disk)
    (ready : source.withDirectory disk = (made, .ok ()))
    (written : made.write source.path sampleText.toUTF8 = .ok disk') :
    source.Repeats disk ∧ ¬ source.Revisits disk := by
  rcases write_ok written with ⟨-, free, there, present, taken⟩
  constructor
  · have idle : ¬ source.Creates disk' := by
      rintro ⟨-, absent⟩
      rw [exists_of_lookup there] at absent
      cases absent
    rcases load_of_written creates ready written with ⟨after, result⟩
    rw [Repeats, after, result, (load_of_idle idle).1, (load_of_idle idle).2,
      loadForms_sample there]
    exact ⟨rfl, rfl⟩
  · rintro ⟨-, made', ready', lookup⟩
    rw [ready] at ready'
    cases ready'
    rcases Option.ne_none_iff_exists'.1 (taken (exists_of_lookup lookup)) with ⟨entry, found⟩
    rw [present entry found] at lookup
    cases lookup
    exact free found

theorem repeats_iff (source : Source) {disk : Disk} (tree : disk.Tree) :
    source.Repeats disk ↔ ¬ source.Revisits disk ∧ ¬ source.Blocked disk := by
  by_cases creates : source.Creates disk
  · rcases outcome : source.withDirectory disk with ⟨made, cause | ⟨⟩⟩
    · exact repeats_failed_iff tree creates outcome
    · have blocked := not_blocked_of_ready outcome
      rw [and_iff_left blocked]
      cases wrote : made.write source.path sampleText.toUTF8 with
      | error cause => exact repeats_refused_iff tree creates outcome wrote
      | ok disk' =>
          rcases repeats_of_written creates outcome wrote with ⟨repeats, visits⟩
          exact iff_of_true repeats visits
  · exact iff_of_true (repeats_of_idle creates)
      ⟨fun revisits => creates revisits.1, fun blocked => creates blocked.1⟩

/-! ## Paths that never go up -/

section Plain

variable (tree : disk.Tree) (plain : Plain source.path.steps)

include plain

theorem plain_parent (known : source.path.parent? = some parent) : Plain parent.steps := by
  rcases steps_parent known with ⟨lower, -, steps⟩
  intro mem
  exact plain (steps ▸ List.mem_append_left _ mem)

include tree

/-- What the directory brings in sight is new. -/
theorem lookup_new (creates : source.Creates disk) {outcome : Except DiskError Unit}
    (ready : source.withDirectory disk = (made, outcome)) {entry : Entry}
    (there : made.lookup source.path = .ok entry) :
    disk.entry? (reach (disk.startOf source.path) source.path.steps) = none ∧
      made.entry? (reach (disk.startOf source.path) source.path.steps) = some entry := by
  have built := source.withDirectory_built disk
  rw [ready] at built
  rcases exists_back tree (fun _ _ => built.kept) (built.startOf _) plain there with old | new
  · rw [creates.2] at old
    cases old
  · exact new

theorem not_overwrites : ¬ source.Overwrites disk := by
  rintro ⟨creates, made, content, ready, there, -⟩
  rcases lookup_new tree plain creates ready there with ⟨missing, found⟩
  have built := source.withDirectory_built disk
  rw [ready] at built
  rw [built.file found] at missing
  cases missing

/-- The directory of the file is above it. -/
theorem not_revisits : ¬ source.Revisits disk := by
  rintro ⟨creates, made, ready, there⟩
  rcases lookup_new tree plain creates ready there with ⟨missing, found⟩
  unfold withDirectory at ready
  cases known : source.path.parent? with
  | none =>
      rw [known] at ready
      cases ready
      rw [missing] at found
      cases found
  | some parent =>
      rw [known] at ready
      dsimp only at ready
      have built := makeAll_built disk parent
      rw [ready, startOf_parent known] at built
      rcases built.entries (reach (disk.startOf source.path) source.path.steps) with
        same | ⟨-, -, upper, above, leads⟩
      · rw [same, missing] at found
        cases found
      · rw [reach_below known plain above leads, tree.startOf] at missing
        cases missing

/-- A file in the way is met at once. -/
theorem not_blocked : ¬ source.Blocked disk := by
  rintro ⟨creates, made, parent, failed, known, led⟩
  have built := source.withDirectory_built disk
  rw [failed] at built
  have start := built.startOf parent
  have led' : disk.route parent = .error .notDirectory := by
    rw [route, start] at led
    exact built.blocked_back tree (plain_parent plain known) led
  rw [withDirectory, known] at failed
  dsimp only at failed
  cases known' : parent.parent? with
  | none =>
      rw [makeAll, makeAllFuel, known'] at failed
      cases failed
  | some upper =>
      cases checked : checkPath parent with
      | error error =>
          rcases makeAll_unchecked disk known' checked with ⟨outcome, other⟩
          rw [outcome] at failed
          cases failed
          exact other rfl
      | ok =>
          have first := makeDirectory_of_error checked led' (by decide)
          have nowhere : disk.isDirectory parent = false := by
            rw [← Bool.not_eq_true, isDirectory_iff checked]
            rintro ⟨location, there, -⟩
            rw [led'] at there
            cases there
          rw [makeAll, makeAllFuel_final known' _ first (by decide) nowhere] at failed
          cases failed

end Plain

/-! ## What a load changes, and when it is safe -/

/-- A load changes nothing but missing directories above the file and the file itself. -/
theorem load_entries (source : Source) (disk : Disk) (location : Location) :
    Disk.entry? (source.load disk).disk location = disk.entry? location ∨
      source.Ancestor disk (source.load disk).disk location ∨
      location = reach (disk.startOf source.path) source.path.steps ∧
        Disk.entry? (source.load disk).disk location = some (.file sampleText.toUTF8) ∧
        (source.load disk).result = .ok sampleForms := by
  have course := source.load_course disk
  have entries := source.withDirectory_entries disk location
  have built := source.withDirectory_built disk
  generalize (source.load disk).disk = after, (source.load disk).result = result at course ⊢
  cases course with
  | reads idle => exact .inl rfl
  | failed creates made parent cause known failed =>
      rw [failed] at entries
      exact entries.imp_right .inl
  | refused creates made cause ready failed =>
      rw [ready] at entries
      exact entries.imp_right .inl
  | written creates made disk' ready written =>
      rw [ready] at entries built
      rcases write_ok written with ⟨put, free, -⟩
      rw [built.startOf] at put free
      by_cases same : location = reach (disk.startOf source.path) source.path.steps
      · refine .inr (.inr ⟨same, ?_, rfl⟩)
        rw [put, same, entry?_put_self _ (isRoot_eq_false free)]
      · have kept : after.entry? location = made.entry? location := by
          rw [put, entry?_put_of_ne _ same]
        rw [Ancestor, kept]
        exact entries.imp_right .inl

/-- What a load changes, and when it is safe.  It leaves the disk alone unless the sample is asked for
and its path does not exist; otherwise it makes missing directories above the file and, if that goes
well, the file, whose forms it returns.  It keeps what is there unless the path comes to lead to
another file when the directories have been made, and a second load repeats the first unless it
comes to lead to a directory or a file blocks the directories.  None of this happens to a path that
never goes up. -/
theorem load_safe_iff (source : Source) (disk : Disk) (tree : disk.Tree) :
    (source.createIfMissing = false ∨ disk.exists source.path = true →
      (source.load disk).disk = disk) ∧
    (∀ location, Disk.entry? (source.load disk).disk location = disk.entry? location ∨
      source.Ancestor disk (source.load disk).disk location ∨
      location = reach (disk.startOf source.path) source.path.steps ∧
        Disk.entry? (source.load disk).disk location = some (.file sampleText.toUTF8) ∧
        (source.load disk).result = .ok sampleForms) ∧
    ((∀ location entry, disk.entry? location = some entry →
      Disk.entry? (source.load disk).disk location = some entry) ↔ ¬ source.Overwrites disk) ∧
    ((source.load (source.load disk).disk).result = (source.load disk).result ∧
      (source.load (source.load disk).disk).disk = (source.load disk).disk ↔
      ¬ source.Revisits disk ∧ ¬ source.Blocked disk) ∧
    (".." ∉ source.path.steps →
      ¬ source.Overwrites disk ∧ ¬ source.Revisits disk ∧ ¬ source.Blocked disk) := by
  refine ⟨?idle, source.load_entries disk, source.kept_iff tree, source.repeats_iff tree, ?plain⟩
  case idle =>
    intro unasked
    refine (load_of_idle ?_).1
    rintro ⟨asked, absent⟩
    rcases unasked with off | there
    · rw [asked] at off
      cases off
    · rw [there] at absent
      cases absent
  case plain =>
    intro plain
    exact ⟨not_overwrites tree plain, not_revisits tree plain, not_blocked tree plain⟩

/-! ### Going up from a directory that is missing -/

/-- A directory with a single file. -/
def shelf (content : ByteArray) : Disk :=
  { entries := [(["forms.json"], .file content)] }

theorem shelf_tree (content : ByteArray) : (shelf content).Tree := by
  refine ⟨rfl, ?_⟩
  intro location present
  cases root : isRoot location with
  | true =>
      refine entry?_root ?_
      simp only [isRoot, Bool.or_eq_true, decide_eq_true_eq] at root
      rcases root with (rfl | rfl) | rfl <;> rfl
  | false =>
      have only : location = ["forms.json"] := by
        by_contra other
        rw [entry?_inner root, shelf, List.find?_cons_of_neg (by simpa using Ne.symm other)] at present
        exact present rfl
      rw [only]
      rfl

/-- A path to a new directory. -/
def below : Source :=
  ⟨⟨"new/forms.json"⟩, true⟩

theorem load_safe_iff_below :
    (shelf ByteArray.empty).Tree ∧
      (∀ location entry, Disk.entry? (shelf ByteArray.empty) location = some entry →
        Disk.entry? (below.load (shelf ByteArray.empty)).disk location = some entry) ∧
      (below.load (below.load (shelf ByteArray.empty)).disk).result =
        (below.load (shelf ByteArray.empty)).result := by
  have safe := load_safe_iff below (shelf ByteArray.empty) (shelf_tree _)
  have plain := safe.2.2.2.2 (by decide +kernel)
  exact ⟨shelf_tree _, safe.2.2.1.2 plain.1, (safe.2.2.2.1.2 plain.2).1⟩

/-- A path through a new directory back to the file. -/
def around : Source :=
  ⟨⟨"new/../forms.json"⟩, true⟩

/-- A forms file of one's own. -/
def mine : String :=
  "[\x7b\"name\":\"Mine\"\x7d]"

theorem mine_ne_sample : mine.toUTF8 ≠ sampleText.toUTF8 := by
  intro same
  have text : some mine = some sampleText := by
    rw [← fromUTF8?_toUTF8, same, fromUTF8?_toUTF8]
  have read := readDocument_sample
  rw [← Option.some.inj text] at read
  have other : readDocument mine ≠ .ok sampleForms := by decide +kernel
  exact other read

/-- The path leads to the file as soon as its directory has been made, and the file is lost. -/
theorem load_replaces :
    Disk.entry? (shelf mine.toUTF8) ["forms.json"] = some (.file mine.toUTF8) ∧
      Disk.entry? (around.load (shelf mine.toUTF8)).disk ["forms.json"] =
        some (.file sampleText.toUTF8) ∧ mine.toUTF8 ≠ sampleText.toUTF8 := by
  have creates : around.Creates (shelf mine.toUTF8) := ⟨rfl, rfl⟩
  have made : around.withDirectory (shelf mine.toUTF8) =
      ((shelf mine.toUTF8).put ["new"] .directory, .ok ()) := rfl
  have written : ((shelf mine.toUTF8).put ["new"] .directory).write around.path
      sampleText.toUTF8 = .ok (((shelf mine.toUTF8).put ["new"] .directory).put ["forms.json"]
        (.file sampleText.toUTF8)) := rfl
  refine ⟨rfl, ?_, mine_ne_sample⟩
  rw [(load_of_written creates made written).1]
  exact entry?_put_self _ rfl

/-- A directory that has just been made is no file, and from then on the path leads to it. -/
example (content : ByteArray) : Revisits ⟨⟨"new/.."⟩, true⟩ (shelf content) :=
  ⟨⟨rfl, rfl⟩, _, rfl, rfl⟩

/-- The file is in the way only once the directory before it has been made. -/
example (content : ByteArray) :
    Blocked ⟨⟨"a/../forms.json/b/c"⟩, true⟩ (shelf content) :=
  ⟨⟨rfl, rfl⟩, _, _, rfl, rfl, rfl⟩

end Source

end FormSnippet
