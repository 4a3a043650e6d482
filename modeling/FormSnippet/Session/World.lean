import FormSnippet.Editor.Call

/-!
# World — what a session knows of its surroundings
-/

namespace FormSnippet

structure World where
  disk : Disk
  /-- The editor command that the user has set. -/
  editor : Option String
  /-- Why nothing can be copied to the clipboard; `none` if it can. -/
  clipboardFailure : Option String
  /-- The time in milliseconds. -/
  now : Nat
  /-- The variables that programs get. -/
  bindings : List (String × String) := []
  /-- What the terminal and the programs do when the editor is called. -/
  system : Editor.System

end FormSnippet
