import FormSnippet.Editor.Command
import FormSnippet.Session.State

/-!
# Excursion — what is left of a call of the editor

The editor takes over the terminal, and hands it back cleared whether or not it ends well.  A
session asks for being drawn anew only if the editor has ended well, though; what happens to the
forms after that makes no difference.

- `Editor.run_constant`             : programs that do nothing but end
- `Session.editForms_needsRedraw`   : the request to draw anew, after every course of an edit
- `Session.edit_redraws_iff`        : the same for the key
- `Session.edit_not_redrawn`        : an editor that fails leaves a session that is not drawn anew
-/

namespace FormSnippet

/-! ## Programs that do nothing but end -/

namespace Editor

/-- A program that only ends is run without a trace on the disk. -/
theorem run_constant {word : String} {status : Nat} {path : Path} {disk : Disk}
    {bindings : List (String × String)} (words : Text.words word = [word])
    (bare : Script.Shell.installed? word = some word) (plain : word ≠ "sh")
    (found : find? word = some (.constant status))
    (clean : ([word, path.text].any (·.toList.contains '\x00')) = false) :
    run installed word path disk bindings =
      (disk, if status = 0 then .ok () else .error (.ended (.status status))) := by
  have started : start word [path.text] disk bindings = (disk, .ok (.status status)) := by
    rw [start, if_neg (by simpa using clean), bare]
    split
    · next same => exact absurd (Option.some.inj same) plain
    · next name _ same =>
        cases same
        rw [found]
        rfl
    · next missing => cases missing
  have called : run installed word path disk bindings =
      (disk, verdict (.ok (.status status)) installed.restore) := run_of_words words rfl started
  rw [called]
  cases status with
  | zero => rfl
  | succ status => rfl

theorem installed?_of_bare {word : String} (bare : word.splitOn "/" = [word])
    (found : (find? word).isSome = true) : Script.Shell.installed? word = some word := by
  rw [Script.Shell.installed?, bare]
  simp [found]

end Editor

namespace Session

variable {session : Session} {world : World} {command : String} {prepared : Disk}
  {events : List Log.Event}

/-! ## The request to draw anew -/

theorem reload_needsRedraw (session : Session) (disk : Disk) (now : Nat) :
    (session.reload disk now).1.needsRedraw = true := by
  unfold reload
  dsimp only
  split <;> rfl

/-- Once the editor has been called, its end alone decides. -/
theorem editForms_needsRedraw (set : world.editor = some command)
    (nonblank : Text.allBlank command = false)
    (ready : session.source.prepare world.disk = ⟨prepared, events, .ok ()⟩) :
    (session.editForms world).1.needsRedraw = true ↔
      session.needsRedraw = true ∨
        (Editor.run world.system command session.source.path prepared
          (("EDITOR", command) :: world.bindings)).2 = .ok () := by
  have chosen : world.editor.filter (!Text.allBlank ·) = some command := by
    rw [set, Option.filter_some, nonblank]
    rfl
  unfold editForms
  rw [chosen]
  dsimp only
  rw [ready]
  dsimp only
  -- What is left is the end of the editor: an error only makes a message.
  split
  · next disk error ended =>
      rw [ended]
      exact ⟨.inl, fun ways => ways.elim id nofun⟩
  · next disk ended =>
      rw [ended]
      have redrawn := reload_needsRedraw session disk world.now
      exact ⟨fun _ => .inr rfl, fun _ => redrawn⟩

/-- After the key for editing the forms file, with a command that can be called and a file that is
prepared, a session asks for being drawn anew if and only if it has asked before or the editor ends
well, whatever the terminal and the programs may do. -/
theorem edit_redraws_iff (listed : session.view = .list) (set : world.editor = some command)
    (nonblank : Text.allBlank command = false)
    (ready : session.source.prepare world.disk = ⟨prepared, events, .ok ()⟩)
    (modifiers : Modifiers) :
    (session.onKey (.char 'e') modifiers world).1.needsRedraw = true ↔
      session.needsRedraw = true ∨
        (Editor.run world.system command session.source.path prepared
          (("EDITOR", command) :: world.bindings)).2 = .ok () := by
  have edited : session.onKey (.char 'e') modifiers world = session.editForms world := by
    rw [onKey, listed]
    rfl
  rw [edited]
  exact editForms_needsRedraw set nonblank ready

/-! ## Two editors -/

/-- The list of one form, as it has been loaded. -/
def single : Session :=
  ofForms [⟨"A", none, []⟩] (.explicit ⟨"forms.json"⟩) {}

/-- The file of that form, and an editor. -/
def desk (command : String) : World :=
  { disk := { entries := [(["forms.json"], .file "[[\"A\"]]".toUTF8)] }
    editor := some command
    clipboardFailure := none
    now := 0
    system := Editor.installed }

theorem run_true : (Editor.run Editor.installed "true" single.source.path (desk "true").disk
    [("EDITOR", "true")]).2 = .ok () := by
  have bare : "true".splitOn "/" = ["true"] := by
    rw [String.splitOn, if_neg (by decide)]
    iterate 4 rw [String.splitOnAux, if_neg (by decide), if_neg (by decide)]
    rw [String.splitOnAux, if_pos (by decide)]
    decide
  have words : Text.words "true" = ["true"] := by decide +kernel
  rw [Editor.run_constant words (Editor.installed?_of_bare bare rfl) (by decide) rfl
    (by decide +kernel)]
  rfl

theorem edit_redraws_iff_true :
    single.view = .list ∧ (desk "true").editor = some "true" ∧ Text.allBlank "true" = false ∧
      single.source.prepare (desk "true").disk = ⟨(desk "true").disk, [], .ok ()⟩ ∧
      (single.onKey (.char 'e') {} (desk "true")).1.needsRedraw = true := by
  have nonblank : Text.allBlank "true" = false := by decide +kernel
  exact ⟨rfl, rfl, nonblank, rfl, (edit_redraws_iff rfl rfl nonblank rfl {}).2 (.inr run_true)⟩

theorem run_false : (Editor.run Editor.installed "false" single.source.path (desk "false").disk
    [("EDITOR", "false")]).2 = .error (.ended (.status 1)) := by
  have bare : "false".splitOn "/" = ["false"] := by
    rw [String.splitOn, if_neg (by decide)]
    iterate 5 rw [String.splitOnAux, if_neg (by decide), if_neg (by decide)]
    rw [String.splitOnAux, if_pos (by decide)]
    decide
  have words : Text.words "false" = ["false"] := by decide +kernel
  rw [Editor.run_constant words (Editor.installed?_of_bare bare rfl) (by decide) rfl
    (by decide +kernel)]
  rfl

/-- Not every call of the editor is followed by a request to draw anew, even if the terminal is given
up and taken back. -/
theorem edit_not_redrawn :
    ¬ ∀ (session : Session) (world : World) (command : String), session.view = .list →
      world.system.release = .ok () → world.system.restore = .ok () →
      world.editor = some command → Text.allBlank command = false →
      (session.source.prepare world.disk).result = .ok () →
      (session.onKey (.char 'e') {} world).1.needsRedraw = true := by
  intro always
  have nonblank : Text.allBlank "false" = false := by decide +kernel
  have redrawn : (single.editForms (desk "false")).1.needsRedraw = true :=
    always single (desk "false") "false" rfl rfl rfl rfl nonblank rfl
  rcases (editForms_needsRedraw rfl nonblank rfl).1 redrawn with before | ended
  · cases before
  · have failed := ended.symm.trans run_false
    cases failed

end Session
end FormSnippet
