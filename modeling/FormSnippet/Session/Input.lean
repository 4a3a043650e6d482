/-!
# Input — keys and the mouse
-/

namespace FormSnippet

inductive Key
  | char (c : Char)
  | escape
  | enter
  | up
  | down
  | left
  | right
  | tab
  | backTab
  | backspace
  | delete
  | home
  | endOfLine
  | pageUp
  | pageDown
  | function (n : Nat)
  deriving DecidableEq, Repr

structure Modifiers where
  control : Bool := false
  alt : Bool := false
  shift : Bool := false
  deriving DecidableEq, Repr

inductive MouseButton
  | left
  | right
  | middle
  deriving DecidableEq, Repr

inductive MouseAction
  | down (button : MouseButton)
  | up (button : MouseButton)
  | drag (button : MouseButton)
  | moved
  | scrollDown
  | scrollUp
  deriving DecidableEq, Repr

/-- A mouse event with the place of the screen where it happened. -/
structure Mouse where
  action : MouseAction
  column : Nat
  row : Nat
  deriving DecidableEq, Repr

end FormSnippet
