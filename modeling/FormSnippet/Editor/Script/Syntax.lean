/-!
# Syntax — scripts of the shell

A script is a sequence of commands.  A simple command is a list of words with assignments before it
and redirections around it; the others are made of commands.  A word is a list of parts, some of
which are replaced when the command runs.
-/

namespace FormSnippet
namespace Editor
namespace Script

/-! ## Words -/

/-- A part of a word.  What stands in a parenthesis behind a dollar sign is kept as text, since it
is read when it is run. -/
inductive Part
  | bare (c : Char)
  | quoted (c : Char)
  | quotes (parts : List Part)
  | parameter (name change : String) (word : List Part)
  | substitution (script : List Char)
  | arithmetic (parts : List Part)
  deriving Inhabited

abbrev Word : Type :=
  List Part

/-- The text of a word that has no quotes and nothing to be replaced. -/
def Word.plain? : Word → Option String
  | [] => some ""
  | .bare c :: rest => (Word.plain? rest).map (String.singleton c ++ ·)
  | _ => none

/-! ## Commands -/

inductive Direction
  | read
  | write
  | append
  | duplicate
  /-- The text itself is read. -/
  | here
  deriving DecidableEq, Repr

structure Redirection where
  descriptor : Nat
  direction : Direction
  target : Word

inductive Command
  | simple (assignments : List (String × Word)) (words : List Word)
      (redirections : List Redirection)
  | pipeline (negated : Bool) (commands : List Command)
  | both (first second : Command)
  | either (first second : Command)
  | sequence (commands : List Command)
  | background (body : Command)
  | subshell (body : Command)
  | redirected (body : Command) (redirections : List Redirection)
  | conditional (condition body alternative : Command)
  | loop (goal : Bool) (condition body : Command)
  | each (name : String) (words : Option (List Word)) (body : Command)
  | choice (subject : Word) (arms : List (List Word × Command))
  | definition (name : String) (body : Command)
  deriving Inhabited

end Script
end Editor
end FormSnippet
