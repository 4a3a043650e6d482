import FormSnippet.Proofs.Session.Excursion
import FormSnippet.Proofs.Session.Visit

/-!
# Edit — an edit of the forms file goes through or leaves the list alone

Once a command is set, an edit takes its steps one after the other: the file is made ready, the
terminal is given up, the program is started, the terminal is taken back, and the forms are loaded
again.  The first step that fails is the last one that is taken, but for the terminal, which is taken
back in any case; and then the list is what it was before, with the text of the failure.  That holds
whatever the terminal and the programs do, and whatever becomes of the disk.

- `Session.Course`                  : the steps that are taken, and how the edit ends
- `Session.afterEdit`               : what is left of the session
- `Session.Course.editForms_eq`     : the course tells what is left
- `Session.edit_keeps_or_reloads`   : every edit takes its course
-/

namespace FormSnippet
namespace Session

/-! ## The course of an edit -/

inductive Stage
  | prepare
  | release
  | start
  | restore
  | load
  deriving DecidableEq, Repr

/-- The command for the editor, if one is set and is not blank. -/
def Commands (world : World) (command : String) : Prop :=
  world.editor = some command ∧ Text.allBlank command = false

/-- The file has been made ready and the terminal given up, and then the program that the command
begins with has been called, with the path of the file behind its other arguments.  It leaves a disk,
and it has ended or has not been started. -/
inductive Called (source : Source) (world : World) :
    Disk → Except Editor.StartError Editor.Exit → Prop
  | call {command word : String} {arguments : List String} {ready disk : Disk}
      {events : List Log.Event} {ended : Except Editor.StartError Editor.Exit}
      (commands : Commands world command)
      (prepared : source.prepare world.disk = ⟨ready, events, .ok ()⟩)
      (released : world.system.release = .ok ())
      (words : Text.words command = word :: arguments)
      (started : world.system.start word (arguments ++ [source.path.text]) ready
        (("EDITOR", command) :: world.bindings) = (disk, ended)) :
      Called source world disk ended

/-- The steps that are taken, the disk that they leave, and how the edit ends: with the text of the
failure, or with the forms that are loaded. -/
inductive Course (source : Source) (world : World) :
    List Stage → Disk → Except String (List Form) → Prop
  | unset (unset : ∀ command, ¬ Commands world command) :
      Course source world [] world.disk (.error "EDITOR is not set")
  | unprepared {command : String} {disk : Disk} {events : List Log.Event} {error : LoadError}
      (commands : Commands world command)
      (failed : source.prepare world.disk = ⟨disk, events, .error error⟩) :
      Course source world [.prepare] disk (.error error.message)
  | unreleased {command text : String} {disk : Disk} {events : List Log.Event}
      (commands : Commands world command)
      (prepared : source.prepare world.disk = ⟨disk, events, .ok ()⟩)
      (failed : world.system.release = .error text) :
      Course source world [.prepare, .release] disk
        (.error ("terminal mode switch failed: " ++ text))
  | unstarted {disk : Disk} {cause : Editor.StartError}
      (called : Called source world disk (.error cause)) :
      Course source world [.prepare, .release, .start, .restore] disk
        (.error ("failed to launch editor: " ++ cause.message))
  | unrestored {disk : Disk} {exit : Editor.Exit} {text : String}
      (called : Called source world disk (.ok exit))
      (failed : world.system.restore = .error text) :
      Course source world [.prepare, .release, .start, .restore] disk
        (.error ("terminal mode switch failed: " ++ text))
  | unsuccessful {disk : Disk} {exit : Editor.Exit} (called : Called source world disk (.ok exit))
      (restored : world.system.restore = .ok ()) (failed : exit ≠ .status 0) :
      Course source world [.prepare, .release, .start, .restore] disk
        (.error ("editor exited with " ++ exit.message))
  | unloaded {edited disk : Disk} {events : List Log.Event} {error : LoadError}
      (called : Called source world edited (.ok (.status 0)))
      (restored : world.system.restore = .ok ())
      (failed : source.load edited = ⟨disk, events, .error error⟩) :
      Course source world [.prepare, .release, .start, .restore, .load] disk
        (.error error.message)
  | loaded {edited disk : Disk} {events : List Log.Event} {forms : List Form}
      (called : Called source world edited (.ok (.status 0)))
      (restored : world.system.restore = .ok ())
      (loaded : source.load edited = ⟨disk, events, .ok forms⟩) :
      Course source world [.prepare, .release, .start, .restore, .load] disk (.ok forms)

/-- The session after an edit: a failure leaves a message, and success another list with its first
form selected.  The screen is drawn anew once the editor has ended well. -/
def afterEdit (session : Session) (now : Nat) (stages : List Stage) :
    Except String (List Form) → Session
  | .error text =>
      { session with
        status := some ⟨text, now⟩
        needsRedraw := session.needsRedraw || stages.contains .load }
  | .ok forms => { session with forms, selected := some 0, scroll := 0, needsRedraw := true }

theorem commands_iff {world : World} {command : String} :
    world.editor.filter (!Text.allBlank ·) = some command ↔ Commands world command := by
  rw [Option.filter_eq_some_iff, Bool.not_eq_true', Commands]

/-- A command that is not blank begins with a word. -/
theorem Commands.words {world : World} {command : String} (commands : Commands world command) :
    ∃ word arguments, Text.words command = word :: arguments := by
  refine List.exists_cons_of_ne_nil ?_
  rw [Ne, Text.words_eq_nil_iff, commands.2]
  exact Bool.false_ne_true

/-- A failure before anything is loaded leaves nothing but its text. -/
theorem afterEdit_unloaded {stages : List Stage} (unloaded : Stage.load ∉ stages)
    (session : Session) (now : Nat) (text : String) :
    session.afterEdit now stages (.error text) = session.withStatus text now := by
  have kept : (session.needsRedraw || stages.contains .load) = session.needsRedraw := by
    rw [List.contains_eq_mem, decide_eq_false unloaded, Bool.or_false]
  rw [afterEdit, kept]
  rfl

section Reload

variable {session : Session} {disk after : Disk} {events : List Log.Event} {stages : List Stage}

theorem reload_error {error : LoadError}
    (failed : session.source.load disk = ⟨after, events, .error error⟩)
    (taken : Stage.load ∈ stages) (now : Nat) :
    session.reload disk now = (session.afterEdit now stages (.error error.message), after) := by
  have redrawn : (session.needsRedraw || stages.contains .load) = true := by
    rw [List.contains_eq_mem, decide_eq_true taken, Bool.or_true]
  rw [reload, failed, afterEdit, redrawn]
  rfl

theorem reload_ok {forms : List Form}
    (read : session.source.load disk = ⟨after, events, .ok forms⟩) (now : Nat) :
    session.reload disk now = (session.afterEdit now stages (.ok forms), after) := by
  have loaded : (session.source.load disk).result = .ok forms := by
    rw [read]
  -- What is loaded holds a form, so there is a first one.
  have first : firstOf forms = some 0 := firstOf_eq_some (Source.load_ok loaded).1
  rw [reload, read, afterEdit, ← first]

end Reload

/-! ## Every edit takes its course -/

section Edits

variable {source : Source} {session : Session} {world : World} {disk : Disk}
  {stages : List Stage} {ending : Except String (List Form)}

/-- There is a course for every outcome of every step. -/
theorem exists_course (source : Source) (world : World) :
    ∃ stages disk ending, Course source world stages disk ending := by
  by_cases set : ∃ command, Commands world command
  · rcases set with ⟨command, commands⟩
    rcases commands.words with ⟨word, arguments, words⟩
    rcases prepared : source.prepare world.disk with ⟨ready, events, error | ⟨⟩⟩
    · exact ⟨_, _, _, .unprepared commands prepared⟩
    rcases released : world.system.release with text | ⟨⟩
    · exact ⟨_, _, _, .unreleased commands prepared released⟩
    rcases started : world.system.start word (arguments ++ [source.path.text]) ready
      (("EDITOR", command) :: world.bindings) with ⟨edited, ended⟩
    have called : Called source world edited ended :=
      .call commands prepared released words started
    rcases ended with cause | exit
    · exact ⟨_, _, _, .unstarted called⟩
    rcases restored : world.system.restore with text | ⟨⟩
    · exact ⟨_, _, _, .unrestored called restored⟩
    by_cases failed : exit = .status 0
    · subst failed
      rcases read : source.load edited with ⟨disk, events', error | forms⟩
      · exact ⟨_, _, _, .unloaded called restored read⟩
      · exact ⟨_, _, _, .loaded called restored read⟩
    · exact ⟨_, _, _, .unsuccessful called restored failed⟩
  · exact ⟨_, _, _, .unset (not_exists.1 set)⟩

/-- With an editor that ends well the forms are loaded again, with another one there is a message. -/
theorem Called.editForms_eq {ended : Except Editor.StartError Editor.Exit}
    (called : Called session.source world disk ended) :
    session.editForms world =
      match Editor.verdict ended world.system.restore with
      | .error error => (session.withStatus error.message world.now, { world with disk })
      | .ok () =>
          ((session.reload disk world.now).1,
            { world with disk := (session.reload disk world.now).2 }) := by
  cases called with
  | call commands prepared released words started =>
      rw [editForms, commands_iff.2 commands]
      dsimp only
      rw [prepared]
      dsimp only
      rw [Editor.run_of_words words released started]
      rcases Editor.verdict _ world.system.restore with error | ⟨⟩ <;> rfl

/-- What is left of the session is known from the course. -/
theorem Course.editForms_eq (course : Course session.source world stages disk ending) :
    session.editForms world = (session.afterEdit world.now stages ending, { world with disk }) := by
  cases course with
  | unset unset =>
      have none : world.editor.filter (!Text.allBlank ·) = none := by
        refine Option.eq_none_iff_forall_ne_some.2 ?_
        intro command chosen
        exact unset command (commands_iff.1 chosen)
      rw [editForms, none, afterEdit_unloaded (by decide)]
      rfl
  | unprepared commands failed =>
      rw [editForms, commands_iff.2 commands, afterEdit_unloaded (by decide)]
      dsimp only
      rw [failed]
  | unreleased commands prepared failed =>
      rcases commands.words with ⟨word, arguments, words⟩
      rw [editForms, commands_iff.2 commands, afterEdit_unloaded (by decide)]
      dsimp only
      rw [prepared]
      dsimp only
      rw [Editor.run_of_unreleased words failed]
      rfl
  | unstarted called =>
      rw [called.editForms_eq, afterEdit_unloaded (by decide)]
      rfl
  | unrestored called failed =>
      rw [called.editForms_eq, failed, afterEdit_unloaded (by decide)]
      rfl
  | unsuccessful called restored failed =>
      rw [called.editForms_eq, restored, Editor.verdict, if_neg failed,
        afterEdit_unloaded (by decide)]
      rfl
  | unloaded called restored failed =>
      have taken : Stage.load ∈ [Stage.prepare, .release, .start, .restore, .load] := by decide
      rw [called.editForms_eq, restored, Editor.verdict, if_pos rfl]
      dsimp only
      rw [reload_error failed taken world.now]
  | loaded called restored read =>
      rw [called.editForms_eq, restored, Editor.verdict, if_pos rfl]
      dsimp only
      rw [reload_ok read world.now]

/-- The steps on the course are the same for both systems. -/
structure Agree (stages : List Stage) (system system' : Editor.System) : Prop where
  release : .release ∈ stages → system'.release = system.release
  start : .start ∈ stages → system'.start = system.start
  restore : .restore ∈ stages → system'.restore = system.restore

/-- A step that is not on the course has no say in it. -/
theorem Course.congr (course : Course source world stages disk ending) {system : Editor.System}
    (agree : Agree stages world.system system) :
    Course source { world with system } stages disk ending := by
  have again {disk : Disk} {ended : Except Editor.StartError Editor.Exit}
      (released : .release ∈ stages) (taken : .start ∈ stages)
      (called : Called source world disk ended) :
      Called source { world with system } disk ended := by
    cases called with
    | call commands prepared free words started =>
        rw [← agree.release released] at free
        rw [← agree.start taken] at started
        exact .call commands prepared free words started
  cases course with
  | unset unset => exact .unset unset
  | unprepared commands failed => exact .unprepared commands failed
  | unreleased commands prepared failed =>
      exact .unreleased commands prepared ((agree.release (by decide)).trans failed)
  | unstarted called => exact .unstarted (again (by decide) (by decide) called)
  | unrestored called failed =>
      exact .unrestored (again (by decide) (by decide) called)
        ((agree.restore (by decide)).trans failed)
  | unsuccessful called restored failed =>
      exact .unsuccessful (again (by decide) (by decide) called)
        ((agree.restore (by decide)).trans restored) failed
  | unloaded called restored failed =>
      exact .unloaded (again (by decide) (by decide) called)
        ((agree.restore (by decide)).trans restored) failed
  | loaded called restored read =>
      exact .loaded (again (by decide) (by decide) called)
        ((agree.restore (by decide)).trans restored) read

end Edits

/-- After the key for editing, from any list that is shown and with any terminal and any programs,
the edit has taken a course.  If one of its steps has failed, nothing has become of the session but
the text of the failure, and a request to draw it anew if the forms were to be loaded; if none has,
the forms are those that are loaded from the edited disk, with the first one selected.  A step that
is not on the course is not taken: the disk is that of the last step on it, and a system that differs
in other steps leads to the same. -/
theorem edit_keeps_or_reloads (session : Session) (world : World) (modifiers : Modifiers)
    (listed : session.view = .list) :
    let edited := session.onKey (.char 'e') modifiers world
    ∃ stages disk ending, Course session.source world stages disk ending ∧
      edited.2 = { world with disk } ∧
      (∀ text, ending = .error text → edited.1 =
        { session with
          status := some ⟨text, world.now⟩
          needsRedraw := session.needsRedraw || stages.contains .load }) ∧
      (∀ forms, ending = .ok forms → edited.1 =
        { session with forms, selected := some 0, scroll := 0, needsRedraw := true }) ∧
      ∀ system, Agree stages world.system system →
        session.onKey (.char 'e') modifiers { world with system } =
          (edited.1, { world with disk, system }) := by
  intro edited
  have key (world : World) :
      session.onKey (.char 'e') modifiers world = session.editForms world := by
    rw [onKey, listed]
    rfl
  rcases exists_course session.source world with ⟨stages, disk, ending, course⟩
  have left : edited = (session.afterEdit world.now stages ending, { world with disk }) :=
    (key world).trans course.editForms_eq
  refine ⟨stages, disk, ending, course, ?_, ?_, ?_, ?_⟩
  · rw [left]
  · rintro text rfl
    rw [left]
    rfl
  · rintro forms rfl
    rw [left]
    rfl
  · intro system agree
    rw [key, left]
    exact (course.congr agree).editForms_eq

/-! ## An editor that removes everything -/

def wiping : Editor.System :=
  { Editor.installed with start := fun _ _ _ _ => ({ entries := [] }, .ok (.status 0)) }

theorem load_wiped : (Source.explicit ⟨"forms.json"⟩).load { entries := [] } =
    ⟨{ entries := [] }, [], .error (.read ⟨"forms.json"⟩ .notFound)⟩ := by
  rfl

theorem Called.wiped {world : World} (system : world.system = wiping) {disk : Disk}
    {ended : Except Editor.StartError Editor.Exit}
    (called : Called (.explicit ⟨"forms.json"⟩) world disk ended) :
    disk = { entries := [] } ∧ ended = .ok (.status 0) := by
  cases called with
  | call commands prepared released words started =>
      rw [system] at started
      cases started
      exact ⟨rfl, rfl⟩

theorem Course.wiped {world : World} (system : world.system = wiping) {command : String}
    (commands : Commands world command) {stages : List Stage} {disk : Disk}
    {ending : Except String (List Form)}
    (course : Course (.explicit ⟨"forms.json"⟩) world stages disk ending) :
    .load ∈ stages ∧ ending =
      .error "failed to read forms.json: No such file or directory (os error 2)" := by
  cases course with
  | unset unset => exact absurd commands (unset command)
  | unprepared commands failed => cases failed
  | unreleased commands prepared failed =>
      rw [system] at failed
      cases failed
  | unstarted called => cases (called.wiped system).2
  | unrestored called failed =>
      rw [system] at failed
      cases failed
  | unsuccessful called restored failed =>
      exact absurd (Except.ok.inj (called.wiped system).2) failed
  | unloaded called restored failed =>
      rw [(called.wiped system).1] at failed
      cases load_wiped.symm.trans failed
      exact ⟨by decide, rfl⟩
  | loaded called restored read =>
      rw [(called.wiped system).1] at read
      cases load_wiped.symm.trans read

theorem lowerForm_source :
    (Running.atShelf.run [.render 20 9, .key .down {}]).session.source =
      .explicit ⟨"forms.json"⟩ := by
  decide +kernel

/-- The second form of the list stays selected. -/
theorem edit_keeps_or_reloads_wiped :
    let session := (Running.atShelf.run [.render 20 9, .key .down {}]).session
    session.view = .list ∧
      (session.onKey (.char 'e') {} { desk "vi" with system := wiping }).1 =
        { session with
          status := some ⟨"failed to read forms.json: No such file or directory (os error 2)", 0⟩
          needsRedraw := true } := by
  have commands : Commands { desk "vi" with system := wiping } "vi" :=
    ⟨rfl, by decide +kernel⟩
  rcases edit_keeps_or_reloads _ { desk "vi" with system := wiping } {}
    Running.lowerForm_listed with
    ⟨stages, disk, ending, course, -, kept, -⟩
  rw [lowerForm_source] at course
  rcases course.wiped rfl commands with ⟨loads, failed⟩
  have left := kept _ failed
  rw [List.contains_eq_mem, decide_eq_true loads, Bool.or_true] at left
  exact ⟨Running.lowerForm_listed, left⟩

end Session
end FormSnippet
